import Mathlib.Data.List.Chain
import DebtMarket.Proofs.Command.Changes
import DebtMarket.Proofs.Floor.Writes

/-! The forms of a record over a run. Whatever is read of the store has a form at every moment,
and over a schedule it takes on one form after another. If every turn lets the reading evolve
in the same ways, its forms are a course: the first one was created, and each of the others is
what became of the one before it.
-/

namespace DebtMarket

variable {α β : Type}

/-- Forms of which the first was created and each other one comes from the one before it. -/
structure Course (Made : β → Prop) (Turned : β → β → Prop) (forms : List β) : Prop where
  first : ∀ b, forms.head? = some b → Made b
  next : forms.IsChain Turned

namespace Course

variable {Made : β → Prop} {Turned : β → β → Prop} {forms : List β} {b : β}

theorem nil : Course Made Turned [] :=
  ⟨nofun, .nil⟩

theorem exists_first (h : Course Made Turned forms) (last : forms.getLast? = some b)
    : ∃ a, forms.head? = some a ∧ Made a := by
  cases head : forms.head? with
  | none =>
      rw [List.head?_eq_none_iff.1 head] at last
      cases last
  | some a => exact ⟨a, rfl, h.first a head⟩

/-- A course begins with another course. -/
theorem left {later : List β} (h : Course Made Turned (forms ++ later))
    : Course Made Turned forms where
  first b head := by
    apply h.first b
    rw [List.head?_append, head]
    rfl
  next := (List.isChain_append.1 h.next).1

/-- What holds of a first form, and after one change more if it held before it, holds of the
last form by the number of forms: by induction on them.
-/
theorem reaches {P : Nat → β → Prop} (h : Course Made Turned forms) (made : ∀ b, Made b → P 1 b)
    (turned : ∀ n a b, Turned a b → P n a → P (n + 1) b) (last : forms.getLast? = some b)
    : P forms.length b := by
  induction forms using List.reverseRecOn generalizing b with
  | nil => cases last
  | append_singleton earlier c ih =>
      cases List.getLast?_concat.symm.trans last
      rw [List.length_append, List.length_singleton]
      cases before : earlier.getLast? with
      | none =>
          rw [List.getLast?_eq_none_iff.1 before] at h ⊢
          exact made c (h.first c rfl)
      | some a =>
          have link := (List.isChain_append.1 h.next).2.2 a before c rfl
          exact turned _ a c link (ih h.left before)

end Course

namespace Floor

/-- The forms that a reading takes on over a schedule, each once for as long as it stays. -/
def forms [DecidableEq β] (read : Store → Option β) (f : Floor) : List Turn → List β
  | [] => (read f.market.store).toList
  | turn :: rest =>
      let later := forms read (f.after turn) rest
      if read (f.after turn).market.store = read f.market.store then later
      else (read f.market.store).toList ++ later

/-- Every turn lets a reading evolve in the same ways. -/
def Evolving (read : Store → Option β) (Made : β → Prop) (Turned : β → β → Prop) : Prop :=
  ∀ f : Floor, f.Consistent → ∀ turn,
    Evolves Made Turned (read f.market.store) (read (f.after turn).market.store)

variable {f : Floor} {read : Store → Option β} {Made : β → Prop} {Turned : β → β → Prop}
  {a b : β}

/-- What is read does not vanish, and what every change keeps stays true of it: by induction
on the schedule.
-/
theorem Evolving.run (evolving : Evolving read Made Turned) (h : f.Consistent) {P : β → Prop}
    (turned : ∀ a b, Turned a b → P a → P b) (found : read f.market.store = some a)
    (holds : P a) (schedule : List Turn)
    : ∃ b, read (f.run schedule).market.store = some b ∧ P b := by
  induction schedule generalizing f a with
  | nil => exact ⟨a, found, holds⟩
  | cons turn rest ih =>
      have evolves := evolving f h turn
      rw [found] at evolves
      obtain ⟨b, next, rfl | how⟩ := evolves.of_some
      · exact ih (h.after turn) next holds
      · exact ih (h.after turn) next (turned a b how holds)

variable [DecidableEq β]

/-- The forms of what is there begin with its present form and end with its last one: by
induction on the schedule.
-/
theorem Evolving.forms_of_some (evolving : Evolving read Made Turned) (h : f.Consistent)
    (found : read f.market.store = some a) (schedule : List Turn)
    : ∃ later, f.forms read schedule = a :: later
        ∧ (a :: later).IsChain Turned
        ∧ (a :: later).getLast? = read (f.run schedule).market.store := by
  induction schedule generalizing f a with
  | nil => exact ⟨[], by rw [forms, found]; rfl, .singleton a, found.symm⟩
  | cons turn rest ih =>
      have evolves := evolving f h turn
      rw [found] at evolves
      obtain ⟨b, next, how⟩ := evolves.of_some
      obtain ⟨later, tail, chain, last⟩ := ih (h.after turn) next
      -- a turn that changes nothing adds no form
      by_cases same : b = a
      · subst same
        exact ⟨later, by rw [forms, next, found, if_pos rfl, tail], chain, last⟩
      · have turned := how.resolve_left same
        refine ⟨b :: later, ?_, .cons_cons turned chain, last⟩
        rw [forms, next, found, if_neg fun equal => same (Option.some.inj equal), tail]
        rfl

/-- The forms of what is not there yet are a course that ends with its last form: by induction
on the schedule.
-/
theorem Evolving.forms_of_none (evolving : Evolving read Made Turned) (h : f.Consistent)
    (absent : read f.market.store = none) (schedule : List Turn)
    : Course Made Turned (f.forms read schedule)
      ∧ (f.forms read schedule).getLast? = read (f.run schedule).market.store := by
  induction schedule generalizing f with
  | nil =>
      rw [forms, run_nil, absent]
      exact ⟨.nil, rfl⟩
  | cons turn rest ih =>
      have skipped : f.forms read (turn :: rest) = (f.after turn).forms read rest := by
        rw [forms, absent]
        split <;> rfl
      rw [skipped, run_cons]
      cases next : read (f.after turn).market.store with
      | none => exact ih (h.after turn) next
      | some b =>
          have evolves := evolving f h turn
          rw [absent, next] at evolves
          cases evolves with
          | created made =>
              obtain ⟨later, all, chain, last⟩ :=
                evolving.forms_of_some (h.after turn) next rest
              rw [all]
              refine ⟨⟨fun c head => ?_, chain⟩, last⟩
              cases head
              exact made

-----------------------------------------------------------------------------------------
-- Records
-----------------------------------------------------------------------------------------

variable {kind : IdKind} [Stored α kind] {table : Store → Table α}
  {Makes : Store → Command → α → Prop} {Turns : Store → Command → α → α → Prop}

/-- If the write of every command lets a table evolve, so does every turn, by the command that
it commits.
-/
theorem Consistent.after_table (h : f.Consistent) (turn : Turn)
    (yields
      : ∀ c s s', c.Yields s s' → s.Sound
        → (table s).Evolves (Makes s c) (Turns s c) (table s'))
    : (table f.market.store).Evolves
        (fun a => ∃ c, f.Commits turn c ∧ Makes f.market.store c a)
        (fun a a' => ∃ c, f.Commits turn c ∧ Turns f.market.store c a a')
        (table (f.after turn).market.store) := by
  rcases h.after_commits turn with same | ⟨c, commits⟩
  · rw [same]
    exact .refl _
  · exact (yields c _ _ commits.yields h.sound).mono (fun a made => ⟨c, commits, made⟩)
      fun a a' turned => ⟨c, commits, turned⟩

/-- Whatever can be said of all that commands create and change holds of how a record evolves
at every turn.
-/
theorem evolving_table
    (yields
      : ∀ c s s', c.Yields s s' → s.Sound
        → (table s).Evolves (Makes s c) (Turns s c) (table s'))
    {Made : α → Prop} {Turned : α → α → Prop} (made : ∀ s c a, Makes s c a → Made a)
    (turned : ∀ s c a a', Turns s c a a' → Turned a a') (id : Id kind)
    : Evolving (fun s => (table s).get? id)
        (fun a => Table.version a = 1 ∧ Made a)
        (fun a a' => Table.Supersedes a' a ∧ Turned a a') := by
  intro f h turn
  refine (h.after_table turn yields id).mono ?_ ?_
  · rintro a ⟨first, c, -, makes⟩
    exact ⟨first, made _ c a makes⟩
  · rintro a a' ⟨supersedes, c, -, turns⟩
    exact ⟨supersedes, turned _ c a a' turns⟩

theorem Consistent.after_instruments (h : f.Consistent) (turn : Turn)
    : f.market.store.instruments.Evolves (fun x => ∃ c, f.Commits turn c ∧ c.Drafts x)
        (fun x x' => ∃ c, f.Commits turn c ∧ c.AltersInstrument x x')
        (f.after turn).market.store.instruments :=
  h.after_table turn fun _ _ _ => Command.Yields.instruments

theorem Consistent.after_listings (h : f.Consistent) (turn : Turn)
    : f.market.store.listings.Evolves
        (fun x => ∃ c, f.Commits turn c ∧ c.Lists f.market.store x)
        (fun x x' => ∃ c, f.Commits turn c ∧ c.AltersListing x x')
        (f.after turn).market.store.listings :=
  h.after_table turn fun _ _ _ => Command.Yields.listings

theorem Consistent.after_offers (h : f.Consistent) (turn : Turn)
    : f.market.store.bids.Evolves
        (fun b => ∃ c, f.Commits turn c ∧ c.Offers f.market.store b)
        (fun b b' => ∃ c, f.Commits turn c ∧ c.AltersBid f.market.store b b')
        (f.after turn).market.store.bids :=
  h.after_table turn fun _ _ _ => Command.Yields.bids

theorem Consistent.after_asks (h : f.Consistent) (turn : Turn)
    : f.market.store.asks.Evolves
        (fun a => ∃ c, f.Commits turn c ∧ c.Asks f.market.store a)
        (fun a a' => ∃ c, f.Commits turn c ∧ c.AltersAsk a a')
        (f.after turn).market.store.asks :=
  h.after_table turn fun _ _ _ => Command.Yields.asks

end Floor

end DebtMarket
