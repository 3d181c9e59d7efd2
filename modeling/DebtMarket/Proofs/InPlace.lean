import DebtMarket.InPlace

/-! The theory of changes in place. A change that first checks and then writes is made as a
whole or not at all: when it is refused, the value is what it was before. Such a change is
known from what it leaves when it is made.
-/

namespace DebtMarket.InPlace

variable {σ τ ε α β : Type} {s s' : σ}

-----------------------------------------------------------------------------------------
-- What the steps of a change come to
-----------------------------------------------------------------------------------------

@[simp]
theorem tried_get (s : σ) : tried (get : InPlace σ ε σ) s = (.ok s, s) :=
  rfl

@[simp]
theorem tried_check (outcome : Except ε α) (s : σ) : tried (check outcome) s = (outcome, s) :=
  rfl

@[simp]
theorem tried_modify (f : σ → σ) (s : σ)
    : tried (modify f : InPlace σ ε Unit) s = (.ok (), f s) :=
  rfl

@[simp]
theorem tried_write (given : Option α) (field : α → σ → σ) (s : σ)
    : tried (write given field : InPlace σ ε Unit) s
      = (.ok (), given.elim s fun a => field a s) := by
  cases given <;> rfl

@[simp]
theorem tried_within (part : σ → τ) (withPart : σ → τ → σ) (change : InPlace τ ε α) (s : σ)
    : (change.within part withPart).tried s
      = ((change.tried (part s)).1, withPart s (change.tried (part s)).2) :=
  rfl

/-- A change after another one is tried on what the first left, unless that was refused. -/
theorem tried_bind (p : InPlace σ ε α) (f : α → InPlace σ ε β) (s : σ)
    : (p >>= f).tried s
      = match p.tried s with
        | (.ok a, s) => (f a).tried s
        | (.error e, s) => (.error e, s) := by
  change (ExceptT.bindCont f (p.tried s).1).run (p.tried s).2 = _
  rcases p.tried s with ⟨e | a, s⟩ <;> rfl

/-- Checks of the same value, one after another, by induction on what is checked. -/
theorem tried_checks (rule : σ → α → Except ε Unit) (as : List α) (s : σ)
    : tried (as.forM fun a => do check (rule (← get) a)) s = (as.forM (rule s), s) := by
  induction as with
  | nil => rfl
  | cons a rest ih =>
      simp only [List.forM_eq_forM, List.forM_cons] at ih ⊢
      rw [tried_bind, tried_bind, tried_get]
      simp only [tried_check]
      cases rule s a with
      | error e => rfl
      | ok u => exact ih

/-- Several steps that write, by induction on what is written. -/
theorem tried_modifies (f : σ → α → σ) (as : List α) (s : σ)
    : tried (as.forM fun a => (modify fun s => f s a : InPlace σ ε Unit)) s
      = (.ok (), as.foldl f s) := by
  induction as generalizing s with
  | nil => rfl
  | cons a rest ih =>
      simp only [List.forM_eq_forM, List.forM_cons] at ih ⊢
      rw [tried_bind, tried_modify]
      exact ih (f s a)

-----------------------------------------------------------------------------------------
-- What a change leaves when it is made
-----------------------------------------------------------------------------------------

theorem apply_eq_ok {change : InPlace σ ε Unit}
    : change.apply s = .ok s' ↔ change.tried s = (.ok (), s') := by
  rw [apply]
  rcases change.tried s with ⟨e | ⟨⟩, s⟩ <;> simp

@[simp]
theorem apply_get_bind (f : σ → InPlace σ ε Unit) (s : σ)
    : (get >>= f).apply s = (f s).apply s :=
  rfl

@[simp]
theorem apply_check_bind (outcome : Except ε α) (f : α → InPlace σ ε Unit) (s : σ)
    : (check outcome >>= f).apply s = outcome >>= fun a => (f a).apply s := by
  cases outcome <;> rfl

@[simp]
theorem apply_throw_bind (e : ε) (f : α → InPlace σ ε Unit) (s : σ)
    : ((throw e : InPlace σ ε α) >>= f).apply s = .error e :=
  rfl

@[simp]
theorem apply_throw (e : ε) (s : σ) : apply (throw e : InPlace σ ε Unit) s = .error e :=
  rfl

@[simp]
theorem apply_modify (f : σ → σ) (s : σ)
    : apply (modify f : InPlace σ ε Unit) s = .ok (f s) :=
  rfl

@[simp]
theorem apply_write_bind (given : Option α) (field : α → σ → σ) (g : Unit → InPlace σ ε Unit)
    (s : σ)
    : (write given field >>= g).apply s = (g ()).apply (given.elim s fun a => field a s) := by
  cases given <;> rfl

/-- A change of a part leaves the value with the changed part. -/
@[simp]
theorem apply_within (part : σ → τ) (withPart : σ → τ → σ) (change : InPlace τ ε Unit) (s : σ)
    : (change.within part withPart).apply s = (change.apply (part s)).map (withPart s) := by
  rw [apply, apply, tried_within]
  rcases change.tried (part s) with ⟨e | ⟨⟩, t⟩ <;> rfl

-----------------------------------------------------------------------------------------
-- Changes that are made as a whole or not at all
-----------------------------------------------------------------------------------------

/-- A change that writes nothing. -/
def Reads (change : InPlace σ ε α) : Prop :=
  ∀ s, (change.tried s).2 = s

/-- A change that is never refused. -/
def Surely (change : InPlace σ ε α) : Prop :=
  ∀ s e, (change.tried s).1 ≠ .error e

/-- A change that leaves the value as it was when it is refused. -/
def Whole (change : InPlace σ ε α) : Prop :=
  ∀ s e, (change.tried s).1 = .error e → (change.tried s).2 = s

variable {p : InPlace σ ε α} {f : α → InPlace σ ε β}

theorem reads_get : Reads (get : InPlace σ ε σ) :=
  fun _ => rfl

theorem reads_check (outcome : Except ε α) : Reads (check outcome : InPlace σ ε α) :=
  fun _ => rfl

theorem reads_checks (rule : σ → α → Except ε Unit) (as : List α)
    : Reads (as.forM fun a => do check (rule (← get) a)) := by
  intro s
  rw [tried_checks]

theorem surely_modify (f : σ → σ) : Surely (modify f : InPlace σ ε Unit) :=
  fun _ _ => nofun

theorem surely_write (given : Option α) (field : α → σ → σ)
    : Surely (write given field : InPlace σ ε Unit) := by
  intro s e
  rw [tried_write]
  nofun

theorem surely_modifies (f : σ → α → σ) (as : List α)
    : Surely (as.forM fun a => (modify fun s => f s a : InPlace σ ε Unit)) := by
  intro s e
  rw [tried_modifies]
  nofun

/-- Steps that are never refused are not refused one after another. -/
theorem Surely.bind (h : p.Surely) (rest : ∀ a, (f a).Surely) : (p >>= f).Surely := by
  intro s e
  rw [tried_bind]
  have made := h s
  generalize p.tried s = first at made ⊢
  obtain ⟨e' | a, s'⟩ := first
  · exact absurd rfl (made e')
  · exact rest a s' e

theorem whole_throw (e : ε) : Whole (throw e : InPlace σ ε α) :=
  fun _ _ _ => rfl

/-- A change is whole that is refused before it writes anything. -/
theorem whole_throw_bind (e : ε) (f : α → InPlace σ ε β)
    : ((throw e : InPlace σ ε α) >>= f).Whole :=
  fun _ _ _ => rfl

theorem Surely.whole (h : p.Surely) : p.Whole :=
  fun s e refused => absurd refused (h s e)

/-- A step that writes nothing may come before a change that is made as a whole. -/
theorem Reads.bind_whole (h : p.Reads) (rest : ∀ a, (f a).Whole) : (p >>= f).Whole := by
  intro s e refused
  rw [tried_bind] at refused ⊢
  have same := h s
  generalize p.tried s = first at same refused ⊢
  obtain ⟨e' | a, s'⟩ := first
  · exact same
  · obtain rfl : s' = s := same
    exact rest a s' e refused

/-- A rule that is asked in some cases only may come before a change that is made as a whole. -/
theorem whole_guard {c : Prop} [Decidable c] {outcome : Except ε Unit}
    {rest : Unit → InPlace σ ε Unit} (h : ∀ u, (rest u).Whole)
    : InPlace.Whole (if c then check outcome >>= rest else rest ()) := by
  split
  · exact (reads_check outcome).bind_whole h
  · exact h ()

theorem Whole.within {change : InPlace τ ε α} (h : change.Whole) {part : σ → τ}
    {withPart : σ → τ → σ} (own : ∀ s, withPart s (part s) = s)
    : (change.within part withPart).Whole := by
  intro s e refused
  rw [tried_within] at refused ⊢
  rw [h (part s) e refused, own]

/-- A change that is made as a whole is told by what it leaves when it is made. -/
theorem Whole.tried_eq {change : InPlace σ ε Unit} (h : change.Whole) (s : σ)
    : change.tried s
      = match change.apply s with
        | .ok s' => (.ok (), s')
        | .error e => (.error e, s) := by
  have kept := h s
  rw [apply]
  generalize change.tried s = first at kept ⊢
  obtain ⟨e | ⟨⟩, s'⟩ := first
  · exact congrArg (Prod.mk _) (kept e rfl)
  · rfl

end DebtMarket.InPlace
