import DebtMarket.Proofs.Operation.Effect

/-! Rules in order. An operation asks after one rule of the market and then after the next one,
and the first rule that is broken is the one that refuses it: what the later rules would have
objected to is never told. The laws below walk an operation along a list of rules, from its
first step to its end, and say of every check which rules it stands for.
-/

namespace DebtMarket

/-- A rule of the market at some moment, given by the errors that it objects with. -/
def Rule : Type :=
  MarketError → Prop

namespace Rule

variable {α : Type}

/-- A rule that objects to nothing. -/
def Kept (r : Rule) : Prop :=
  ∀ e, ¬r e

/-- The rule against a state of affairs. -/
def against (broken : Prop) (error : MarketError) : Rule :=
  fun e => broken ∧ e = error

/-- The rule about what was found; nothing is asked of what is not there. -/
def about (found : Option α) (rule : α → Rule) : Rule :=
  fun e => ∃ a, found = some a ∧ rule a e

variable {broken : Prop} {error : MarketError} {rule : α → Rule}

theorem against_broken (h : broken) (e : MarketError)
    : against broken error e ↔ e = error :=
  and_iff_right h

theorem against_kept (fine : ¬broken) : (against broken error).Kept :=
  fun _ objects => fine objects.1

@[simp]
theorem about_some (a : α) (rule : α → Rule) : about (some a) rule = rule a := by
  funext e
  simp [about]

theorem about_none (rule : α → Rule) : (about none rule).Kept := by
  rintro e ⟨_, ⟨⟩, _⟩

end Rule

/-- The first rule that is broken objects with an error. -/
inductive FirstBroken : List Rule → MarketError → Prop
  | here {r : Rule} {rest : List Rule} {e : MarketError} (broken : r e)
    : FirstBroken (r :: rest) e
  /-- The rule in front is kept. -/
  | later {r : Rule} {rest : List Rule} {e : MarketError} (kept : r.Kept)
    (broken : FirstBroken rest e)
    : FirstBroken (r :: rest) e

namespace FirstBroken

variable {r : Rule} {rules rest : List Rule} {e : MarketError}

/-- Behind a rule that is kept the other ones count. -/
theorem cons_kept (kept : r.Kept) : FirstBroken (r :: rest) e ↔ FirstBroken rest e := by
  constructor
  · rintro (broken | ⟨_, broken⟩)
    · exact absurd broken (kept e)
    · exact broken
  · exact .later kept

/-- A rule that is broken hides the other ones. -/
theorem cons_broken {error : MarketError} (objects : ∀ e, r e ↔ e = error)
    : FirstBroken (r :: rest) e ↔ error = e := by
  constructor
  · rintro (broken | ⟨kept, _⟩)
    · exact ((objects e).1 broken).symm
    · exact absurd ((objects error).2 rfl) (kept error)
  · rintro rfl
    exact .here ((objects error).2 rfl)

/-- Something is broken first if anything is broken, by induction on the rules. -/
theorem exists_iff : (∃ e, FirstBroken rules e) ↔ ∃ r ∈ rules, ¬r.Kept := by
  induction rules with
  | nil =>
      constructor
      · rintro ⟨_, ⟨⟩⟩
      · rintro ⟨_, ⟨⟩, _⟩
  | cons r rest ih =>
      rw [List.exists_mem_cons_iff, ← ih]
      by_cases kept : r.Kept
      · simp only [cons_kept kept, kept, not_true_eq_false, false_or]
      · obtain ⟨e, broken⟩ : ∃ e, r e := by simpa [Rule.Kept] using kept
        exact ⟨fun _ => .inl kept, fun _ => ⟨e, .here broken⟩⟩

/-- Rules of which none is broken do not count. -/
theorem append_none (none : ∀ e, ¬FirstBroken rules e)
    : FirstBroken (rules ++ rest) e ↔ FirstBroken rest e := by
  induction rules with
  | nil => exact Iff.rfl
  | cons r others ih =>
      have kept : r.Kept := fun e broken => none e (.here broken)
      rw [List.cons_append, cons_kept kept]
      exact ih fun e broken => none e (.later kept broken)

/-- Rules of which one is broken hide those behind them. -/
theorem append_some (some : FirstBroken rules e) {e' : MarketError}
    : FirstBroken (rules ++ rest) e' ↔ FirstBroken rules e' := by
  induction rules with
  | nil => cases some
  | cons r others ih =>
      by_cases kept : r.Kept
      · rw [List.cons_append, cons_kept kept, cons_kept kept]
        exact ih ((cons_kept kept).1 some)
      · constructor
        · rintro (broken | ⟨fine, _⟩)
          · exact .here broken
          · exact absurd fine kept
        · rintro (broken | ⟨fine, _⟩)
          · exact .here broken
          · exact absurd fine kept

end FirstBroken

-----------------------------------------------------------------------------------------
-- Checks
-----------------------------------------------------------------------------------------

/-- A check objects just as the first broken rule does. -/
def Heeds {α : Type} (outcome : Except MarketError α) (rules : List Rule) : Prop :=
  ∀ e, outcome = .error e ↔ FirstBroken rules e

namespace Heeds

variable {α β : Type} {rules rest : List Rule}

theorem ok (a : α) : Heeds (.ok a) [] :=
  fun _ => ⟨nofun, nofun⟩

theorem ite {broken : Prop} [Decidable broken] {error : MarketError} (a : α)
    : Heeds (if broken then .error error else .ok a) [.against broken error] := by
  intro e
  split
  · next h =>
      rw [FirstBroken.cons_broken (Rule.against_broken h), Except.error.injEq]
  · next h =>
      rw [FirstBroken.cons_kept (Rule.against_kept h)]
      exact ok a e

/-- One check after another heeds the rules of both, by cases on the first. -/
theorem bind {outcome : Except MarketError α} {k : α → Except MarketError β}
    (first : Heeds outcome rules) (later : ∀ a, outcome = .ok a → Heeds (k a) rest)
    : Heeds (outcome >>= k) (rules ++ rest) := by
  cases outcome with
  | error error =>
      intro e
      rw [FirstBroken.append_some ((first error).1 rfl), ← first e, Except.error.injEq]
      exact Iff.of_eq (Except.error.injEq error e)
  | ok a =>
      intro e
      rw [FirstBroken.append_none fun e broken => absurd ((first e).2 broken) (by simp)]
      exact later a rfl e

theorem map {outcome : Except MarketError α} (h : Heeds outcome rules) (f : α → β)
    : Heeds (f <$> outcome) rules := by
  intro e
  rw [← h e]
  cases outcome with
  | error error =>
      rw [Except.error.injEq]
      exact Iff.of_eq (Except.error.injEq error e)
  | ok a => exact iff_of_false (by rintro ⟨⟩) (by rintro ⟨⟩)

/-- What was not given is not checked. -/
theorem not_given (b : β) (rule : α → Rule) : Heeds (.ok b) [.about none rule] := by
  intro e
  rw [FirstBroken.cons_kept (Rule.about_none rule)]
  exact ok b e

/-- A field is checked if it is given. -/
theorem mapM {field : Option α} {check : α → Except MarketError β} {rule : α → Rule}
    (given : ∀ a, Heeds (check a) [rule a])
    : Heeds (field.mapM check) [.about field rule] := by
  cases field with
  | none => exact not_given none rule
  | some a =>
      rw [Rule.about_some]
      exact (given a).map some

theorem forM {field : Option α} {check : α → Except MarketError Unit} {rule : α → Rule}
    (given : ∀ a, Heeds (check a) [rule a])
    : Heeds (field.forM check) [.about field rule] := by
  cases field with
  | none => exact not_given () rule
  | some a =>
      rw [Rule.about_some]
      exact given a

end Heeds

-----------------------------------------------------------------------------------------
-- Operations
-----------------------------------------------------------------------------------------

namespace Operation

variable {α β : Type} {g : Given} {s : Store} {rules rest : List Rule}

/-- A rule of the market refuses an operation just as the first broken rule does. -/
def Obeys (g : Given) (s : Store) (p : Operation α) (rules : List Rule) : Prop :=
  ∀ e, (p.effect g s).result = .error (.market e) ↔ FirstBroken rules e

namespace Obeys

/-- An operation that no rule refuses has no rules. -/
theorem free {p : Operation α} (free : ∀ e, (p.effect g s).result ≠ .error (.market e))
    : p.Obeys g s [] :=
  fun e => ⟨fun refused => absurd refused (free e), nofun⟩

theorem pure (a : α) : (Pure.pure a : Operation α).Obeys g s [] :=
  free fun _ => nofun

/-- A write is refused by the store, if at all. -/
theorem save_pure {w : Write} {a : α} : (save w >>= fun _ => Pure.pure a).Obeys g s [] := by
  refine free fun e => ?_
  rw [effect_save_bind]
  cases s.write w <;> rintro ⟨⟩

theorem save_announce {w : Write} {change : Change α}
    : (save w >>= fun _ => announce change).Obeys g s [] := by
  refine free fun e => ?_
  rw [effect_save_bind]
  cases s.write w with
  | error e => rintro ⟨⟩
  | ok s' =>
      simp only [effect_announce]
      rintro ⟨⟩

/-- What goes on from a result and never fails leaves the rules as they are. -/
theorem andThen {p : Operation α} {q : Operation β} (h : p.Obeys g s rules)
    {f : α → Store → Effect β} (whole : q.effect g s = (p.effect g s).andThen f)
    (harmless : ∀ a s failure, (f a s).result ≠ .error failure)
    : q.Obeys g s rules := by
  intro e
  rw [← h e, whole, Effect.andThen]
  cases (p.effect g s).result with
  | error failure => simp only [Except.error.injEq]
  | ok a => exact iff_of_false (harmless _ _ _) (by rintro ⟨⟩)

theorem map {p : Operation α} (h : p.Obeys g s rules) (f : α → β)
    : (f <$> p).Obeys g s rules :=
  h.andThen (effect_map f p g s) fun _ _ _ => nofun

theorem changing {scope : Scope} {body : Operation (Change α)} (h : body.Obeys g s rules)
    : (changing scope body).Obeys g s rules :=
  h.andThen (effect_changing scope body g s) fun _ _ _ => nofun

theorem query_bind {q : Query} {k : q.Answer → Operation α}
    (h : (k (s.answer q)).Obeys g s rules)
    : (query q >>= k).Obeys g s rules :=
  h

theorem now_bind {k : Instant → Operation α} (h : (k g.instant).Obeys g s rules)
    : (now >>= k).Obeys g s rules :=
  h

theorem draw_bind {kind : IdKind} {k : Id kind → Operation α}
    (h : (k (g.id kind)).Obeys g s rules)
    : (draw kind >>= k).Obeys g s rules :=
  h

theorem discard_bind {p : Operation β} {k : PUnit → Operation α}
    (h : (p >>= fun _ => k ⟨⟩).Obeys g s rules)
    : (discard p >>= k).Obeys g s rules := by
  rw [Operation.discard_bind]
  exact h

/-- An operation is refused by the rule in front. -/
theorem refuse {rule : Rule} {error : MarketError} (objects : ∀ e, rule e ↔ e = error)
    : (Operation.refuse error : Operation α).Obeys g s (rule :: rest) := by
  intro e
  rw [FirstBroken.cons_broken objects, effect_refuse, Effect.idle_result, Except.error.injEq,
    Failure.market.injEq]

/-- An operation goes on, as the rule in front is kept. -/
theorem pass {p : Operation α} {rule : Rule} (kept : rule.Kept) (h : p.Obeys g s rest)
    : p.Obeys g s (rule :: rest) :=
  fun e => (h e).trans (FirstBroken.cons_kept kept).symm

/-- A test in front of an operation stands for a rule. -/
theorem ite {c broken : Prop} [Decidable c] {error : MarketError} {p q : Operation α}
    (test : c ↔ broken) (refused : p = Operation.refuse error)
    (h : ¬broken → q.Obeys g s rest)
    : (if c then p else q).Obeys g s (.against broken error :: rest) := by
  subst refused
  split
  · next met => exact refuse (Rule.against_broken (test.1 met))
  · next unmet =>
      have fine : ¬broken := fun broken => unmet (test.2 broken)
      exact pass (Rule.against_kept fine) (h fine)

/-- What has to be is refused if it is not. -/
theorem guard {test : Bool} {fine : Prop} {error : MarketError} {p q : Operation α}
    (means : test = true ↔ fine) (refused : p = Operation.refuse error)
    (h : test = true → q.Obeys g s rest)
    : (if !test then p else q).Obeys g s (.against (¬fine) error :: rest) := by
  refine ite ?_ refused fun passed => h (means.2 (not_not.1 passed))
  rw [← means, Bool.not_eq_true, Bool.not_eq_true']

theorem guard_bind {test : Bool} {fine : Prop} {error : MarketError} {p q : Operation β}
    {k : β → Operation α} (means : test = true ↔ fine)
    (refused : p >>= k = Operation.refuse error) (h : test = true → (q >>= k).Obeys g s rest)
    : ((if !test then p else q) >>= k).Obeys g s (.against (¬fine) error :: rest) := by
  rw [apply_ite (· >>= k)]
  exact guard means refused h

/-- A check stands for the rules that it heeds, by cases on its outcome. -/
theorem check_bind {outcome : Except MarketError β} (heeds : Heeds outcome rules)
    {k : β → Operation α} (h : ∀ b, outcome = .ok b → (k b).Obeys g s rest)
    : (check outcome >>= k).Obeys g s (rules ++ rest) := by
  intro e
  rw [effect_check_bind]
  cases outcome with
  | error error =>
      rw [FirstBroken.append_some ((heeds error).1 rfl), ← heeds e, Effect.idle_result,
        Except.error.injEq, Except.error.injEq, Failure.market.injEq]
  | ok b =>
      rw [FirstBroken.append_none fun e broken => absurd ((heeds e).2 broken) (by simp)]
      exact h b rfl e

/-- What was not found is refused by the rule in front. -/
theorem found_bind {found : Option β} {error : MarketError} {k : β → Operation α}
    (h : ∀ b, found = some b → (k b).Obeys g s rest)
    : (orRefuse found error >>= k).Obeys g s (.against (found = none) error :: rest) := by
  cases found with
  | none => exact refuse (Rule.against_broken rfl)
  | some b => exact pass (Rule.against_kept (Option.some_ne_none b)) (h b rfl)

/-- An operation that the store does not refuse succeeds just if no rule is broken. -/
theorem succeeds_iff {p : Operation α} (h : p.Obeys g s rules)
    (accepted : ∀ e, (p.effect g s).result ≠ .error (.store e))
    : (∃ a, (p.effect g s).result = .ok a) ↔ ∀ r ∈ rules, r.Kept := by
  have refused : (∃ e, (p.effect g s).result = .error (.market e)) ↔ ∃ r ∈ rules, ¬r.Kept :=
    (exists_congr h).trans FirstBroken.exists_iff
  cases ended : (p.effect g s).result with
  | ok a =>
      rw [ended] at refused
      refine iff_of_true ⟨a, rfl⟩ fun r member => ?_
      by_contra broken
      obtain ⟨e, ⟨⟩⟩ := refused.2 ⟨r, member, broken⟩
  | error failure =>
      refine iff_of_false (by rintro ⟨_, ⟨⟩⟩) fun kept => ?_
      cases failure with
      | store e => exact accepted e ended
      | market e =>
          obtain ⟨r, member, broken⟩ := refused.1 ⟨e, ended⟩
          exact broken (kept r member)

end Obeys

end Operation

end DebtMarket
