import DebtMarket.Proofs.Operation.Laws

/-! What an operation does when nothing else happens meanwhile. Its effect depends on the
store, the time and the identifiers that it is given, and on nothing else: locks are always
free and whoever hears of a change has no say in it. The effect of an operation is computed
from the effects of its parts.
-/

namespace DebtMarket

/-- What an operation is given from outside the store. -/
structure Given where
  instant : Instant
  uuid : IdKind → Uuid

namespace Given

/-- The identifier that is drawn for a kind. -/
def id (g : Given) (kind : IdKind) : Id kind :=
  ⟨g.uuid kind⟩

end Given

/-- What came of an operation: its result, the store that it left, and what it made known.
-/
structure Effect (α : Type) where
  result : Except Failure α
  store : Store
  notices : List (Happening × Instant)

namespace Effect

variable {α β : Type}

/-- The effect of an operation that ends with a result and does nothing. -/
def idle (result : Except Failure α) (s : Store) : Effect α :=
  ⟨result, s, []⟩

/-- The effect together with that of what goes on from its result. -/
def andThen (e : Effect α) (f : α → Store → Effect β) : Effect β :=
  match e.result with
  | .ok a =>
      let rest := f a e.store
      ⟨rest.result, rest.store, e.notices ++ rest.notices⟩
  | .error failure => ⟨.error failure, e.store, e.notices⟩

@[simp]
theorem idle_result (result : Except Failure α) (s : Store)
    : (idle result s).result = result :=
  rfl

@[simp]
theorem idle_store (result : Except Failure α) (s : Store) : (idle result s).store = s :=
  rfl

@[simp]
theorem idle_notices (result : Except Failure α) (s : Store)
    : (idle result s).notices = [] :=
  rfl

@[simp]
theorem andThen_idle_ok (a : α) (s : Store) (f : α → Store → Effect β)
    : (idle (.ok a) s).andThen f = f a s :=
  rfl

@[simp]
theorem andThen_idle_error (failure : Failure) (s : Store) (f : α → Store → Effect β)
    : (idle (.error failure) s).andThen f = idle (.error failure) s :=
  rfl

/-- Two effects have the same result and the same notices, and leave stores that are related.
-/
structure Alike (related : Store → Store → Prop) (e e₁ : Effect α) : Prop where
  result : e₁.result = e.result
  notices : e₁.notices = e.notices
  store : related e.store e₁.store

theorem Alike.mono {related related' : Store → Store → Prop} {e e₁ : Effect α}
    (h : Alike related e e₁) (more : ∀ s s₁, related s s₁ → related' s s₁)
    : Alike related' e e₁ :=
  ⟨h.result, h.notices, more _ _ h.store⟩

/-- Effects stay alike if what goes on from their result on their stores has effects alike. -/
theorem Alike.andThen {related : Store → Store → Prop} {e e₁ : Effect α}
    (h : Alike related e e₁) {f : α → Store → Effect β}
    (rest : ∀ a, e.result = .ok a → Alike related (f a e.store) (f a e₁.store))
    : Alike related (e.andThen f) (e₁.andThen f) := by
  obtain ⟨result, notices, store⟩ := h
  simp only [Effect.andThen, result]
  cases ended : e.result with
  | error failure => exact ⟨rfl, notices, store⟩
  | ok a =>
      obtain ⟨result', notices', store'⟩ := rest a ended
      exact ⟨result', congrArg₂ _ notices notices', store'⟩

/-- An effect with nothing made known before it is itself, by the unit of lists. -/
@[simp]
theorem mk_nil_append (e : Effect α)
    : Effect.mk e.result e.store ([] ++ e.notices) = e :=
  rfl

end Effect

namespace Operation

variable {α β : Type}

/-- The effect of an operation on a store when nothing else happens meanwhile. -/
def effect : Operation α → Given → Store → Effect α
  | .done a, _, s => .idle (.ok a) s
  | .fail failure, _, s => .idle (.error failure) s
  | .call .now next, g, s => (next g.instant).effect g s
  | .call (.draw kind) next, g, s => (next (g.id kind)).effect g s
  | .call (.query q) next, g, s => (next (s.answer q)).effect g s
  | .call (.write w) next, g, s =>
      match s.write w with
      | .ok written => (next (.ok ())).effect g written
      | .error e => (next (.error e)).effect g s
  | .call (.publish happening time) next, g, s =>
      let rest := (next ()).effect g s
      ⟨rest.result, rest.store, (happening, time) :: rest.notices⟩
  | .lock _ next, g, s => next.effect g s
  | .unlock next, g, s => next.effect g s

@[simp]
theorem effect_done (a : α) (g : Given) (s : Store)
    : (done a).effect g s = .idle (.ok a) s :=
  rfl

@[simp]
theorem effect_pure (a : α) (g : Given) (s : Store)
    : (pure a : Operation α).effect g s = .idle (.ok a) s :=
  rfl

@[simp]
theorem effect_fail (failure : Failure) (g : Given) (s : Store)
    : (fail failure : Operation α).effect g s = .idle (.error failure) s :=
  rfl

@[simp]
theorem effect_refuse (e : MarketError) (g : Given) (s : Store)
    : (refuse e : Operation α).effect g s = .idle (.error (.market e)) s :=
  rfl

@[simp]
theorem effect_lock (scope : Scope) (next : Operation α) (g : Given) (s : Store)
    : (lock scope next).effect g s = next.effect g s :=
  rfl

@[simp]
theorem effect_unlock (next : Operation α) (g : Given) (s : Store)
    : (unlock next).effect g s = next.effect g s :=
  rfl

/-- The effect of one operation after another, by induction on the first. -/
theorem effect_bind (p : Operation α) (f : α → Operation β) (g : Given) (s : Store)
    : (p.bind f).effect g s = (p.effect g s).andThen fun a s => (f a).effect g s := by
  induction p generalizing s with
  | done a => rfl
  | fail failure => rfl
  | lock scope next ih => exact ih s
  | unlock next ih => exact ih s
  | call c next ih =>
      cases c with
      | now => exact ih g.instant s
      | draw kind => exact ih (g.id kind) s
      | query q => exact ih (s.answer q) s
      | write w =>
          simp only [Operation.bind, effect]
          split
          · exact ih _ _
          · exact ih _ _
      | publish happening time =>
          simp only [Operation.bind, effect, ih, Effect.andThen]
          split <;> rfl

/-- Giving up a lock at the end changes nothing else, by induction on the operation. -/
@[simp]
theorem effect_releasing (p : Operation α) (g : Given) (s : Store)
    : p.releasing.effect g s = p.effect g s := by
  induction p generalizing s with
  | done a => rfl
  | fail failure => rfl
  | lock scope next ih => exact ih s
  | unlock next ih => exact ih s
  | call c next ih =>
      cases c with
      | now => exact ih g.instant s
      | draw kind => exact ih (g.id kind) s
      | query q => exact ih (s.answer q) s
      | write w =>
          simp only [releasing, effect]
          split
          · exact ih _ _
          · exact ih _ _
      | publish happening time => simp only [releasing, effect, ih]

@[simp]
theorem effect_locking (scope : Scope) (body : Operation α) (g : Given) (s : Store)
    : (locking scope body).effect g s = body.effect g s :=
  effect_releasing body g s

/-- A change is made known and nothing else is done, by cases on what there is to tell. -/
@[simp]
theorem effect_announce (change : Change α) (g : Given) (s : Store)
    : (announce change).effect g s = ⟨.ok change.result, s, change.notice.toList⟩ := by
  obtain ⟨result, notice⟩ := change
  cases notice <;> rfl

-----------------------------------------------------------------------------------------
-- Effects of operations that begin with a single step
-----------------------------------------------------------------------------------------

@[simp]
theorem effect_map (f : α → β) (p : Operation α) (g : Given) (s : Store)
    : (f <$> p).effect g s = (p.effect g s).andThen fun a s => .idle (.ok (f a)) s :=
  effect_bind p _ g s

@[simp]
theorem effect_now_bind (k : Instant → Operation α) (g : Given) (s : Store)
    : (now >>= k).effect g s = (k g.instant).effect g s :=
  rfl

@[simp]
theorem effect_draw_bind (kind : IdKind) (k : Id kind → Operation α) (g : Given)
    (s : Store)
    : (draw kind >>= k).effect g s = (k (g.id kind)).effect g s :=
  rfl

@[simp]
theorem effect_query_bind (q : Query) (k : q.Answer → Operation α) (g : Given)
    (s : Store)
    : (query q >>= k).effect g s = (k (s.answer q)).effect g s :=
  rfl

@[simp]
theorem effect_refuse_bind (e : MarketError) (k : α → Operation β) (g : Given)
    (s : Store)
    : ((refuse e : Operation α) >>= k).effect g s = .idle (.error (.market e)) s :=
  rfl

@[simp]
theorem effect_check_bind (outcome : Except MarketError α) (k : α → Operation β)
    (g : Given) (s : Store)
    : (check outcome >>= k).effect g s
      = match outcome with
        | .ok a => (k a).effect g s
        | .error e => .idle (.error (.market e)) s := by
  cases outcome <;> rfl

@[simp]
theorem effect_save_bind (w : Write) (k : Unit → Operation α) (g : Given) (s : Store)
    : (save w >>= k).effect g s
      = match s.write w with
        | .ok written => (k ()).effect g written
        | .error e => .idle (.error (.store e)) s := by
  rw [save_bind, effect]
  cases s.write w <;> rfl

@[simp]
theorem effect_discard_bind (p : Operation α) (k : PUnit → Operation β) (g : Given)
    (s : Store)
    : (discard p >>= k).effect g s = (p >>= fun _ => k ⟨⟩).effect g s := by
  rw [discard_bind]

/-- A change under a lock has the effect of its body, and is made known. -/
@[simp]
theorem effect_changing (scope : Scope) (body : Operation (Change α)) (g : Given)
    (s : Store)
    : (changing scope body).effect g s
      = (body.effect g s).andThen fun change s =>
          ⟨.ok change.result, s, change.notice.toList⟩ := by
  rw [changing_eq, effect_lock, effect_bind, effect_releasing]
  simp only [effect_announce]

end Operation

end DebtMarket
