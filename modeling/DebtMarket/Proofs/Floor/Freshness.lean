import DebtMarket.Proofs.Floor.Endings
import DebtMarket.Proofs.Floor.Turns

/-! Fresh identifiers. The market draws identifiers in the order of its source, and a task
stores at most one thing under an identifier that it has drawn. So no number is stored, and
kept for later by tasks, more often than it was drawn; and if no number was drawn twice, the
store does not know the one under which a task is about to store something new.
-/

namespace DebtMarket

namespace Market

/-- The numbers of a kind that were drawn, in their order. -/
def issued (m : Market) (kind : IdKind) : List Uuid :=
  (List.range (m.drawn kind)).map (m.source kind)

/-- A number that is drawn comes after those that were drawn before. -/
theorem issued_draw (m : Market) (drawn kind : IdKind)
    : (m.draw drawn).2.issued kind
      = m.issued kind ++ if kind = drawn then [(m.draw drawn).1.uuid] else [] := by
  simp only [issued, draw]
  split
  · next same =>
      subst same
      rw [List.range_succ, List.map_append, List.map_singleton]
  · rw [List.append_nil]

/-- The answer to a call draws some numbers, and nothing else is drawn by who is answered. -/
theorem issued_answer (m : Market) (c : Call) (d : Drawn) (kind : IdKind)
    : ∃ new, (m.answer c).2.issued kind = m.issued kind ++ new
        ∧ ((d.after c (m.answer c).1).uuid kind).toList.Sublist
          ((d.uuid kind).toList ++ new) := by
  cases c with
  | draw drawn =>
      refine ⟨_, m.issued_draw drawn kind, ?_⟩
      simp only [Drawn.after, Drawn.drawing, answer]
      split
      · exact List.sublist_append_right _ _
      · exact List.sublist_append_left _ _
  | publish happening time =>
      exact ⟨_, m.issued_draw .event kind, List.sublist_append_left _ _⟩
  | write w =>
      refine ⟨[], ?_, List.sublist_append_left _ _⟩
      simp only [answer, write_eq, List.append_nil]
      split <;> rfl
  | _ => exact ⟨[], (List.append_nil _).symm, List.sublist_append_left _ _⟩

end Market

namespace Task

variable {t t' : Task} {kind : IdKind}

/-- A step draws some numbers, and the task keeps no others than those, by cases on it. -/
theorem step_issued (t : Task) (m : Market) (kind : IdKind)
    : ∃ new, (t.step m).2.issued kind = m.issued kind ++ new
        ∧ ((t.step m).1.drawn.uuid kind).toList.Sublist
          ((t.drawn.uuid kind).toList ++ new) := by
  have steps := t.steps_step m
  generalize (t.step m).1 = t', (t.step m).2 = m' at steps ⊢
  cases steps with
  | call rest => exact m.issued_answer _ t.drawn kind
  | _ => exact ⟨[], (List.append_nil _).symm, List.sublist_append_left _ _⟩

/-- The number of a kind that a task has drawn and not stored anything under. -/
def spare (t : Task) (kind : IdKind) : List Uuid :=
  match t.rest?.map Operation.verdict with
  | none | some (some (.ok _)) => []
  | some none | some (some (.error _)) => (t.drawn.uuid kind).toList

theorem spare_of_gone (gone : t.rest? = none) : t.spare kind = [] := by
  rw [spare, gone]
  rfl

theorem spare_of_ok {outcome : Outcome} (decided : t.verdict? = some (.ok outcome))
    : t.spare kind = [] := by
  obtain ⟨p, rest, decided⟩ := Option.bind_eq_some_iff.1 decided
  rw [spare, rest, Option.map_some, decided]

/-- A task that has not succeeded keeps what it has drawn. -/
theorem spare_of_not_ok (alive : t.rest? ≠ none)
    (undone : ∀ outcome, t.verdict? ≠ some (.ok outcome))
    : t.spare kind = (t.drawn.uuid kind).toList := by
  obtain ⟨p, rest⟩ := Option.ne_none_iff_exists'.1 alive
  rw [spare, rest, Option.map_some]
  split
  · next none => cases none
  · next outcome decided =>
      rw [verdict?_eq rest] at undone
      exact absurd (Option.some.inj decided) (undone outcome)
  · rfl
  · rfl

/-- Tasks that are decided likewise and have drawn the same keep the same. -/
theorem spare_congr {result : Except Failure Outcome} (decided : t.verdict? = some result)
    (decided' : t'.verdict? = some result) (drawn : t'.drawn = t.drawn)
    : t'.spare kind = t.spare kind := by
  obtain ⟨p, rest, decided⟩ := Option.bind_eq_some_iff.1 decided
  obtain ⟨p', rest', decided'⟩ := Option.bind_eq_some_iff.1 decided'
  rw [spare, spare, rest, rest', Option.map_some, Option.map_some, decided, decided', drawn]

/-- The numbers of a kind that several tasks have drawn and not stored anything under. -/
def sparesOf (tasks : List Task) (kind : IdKind) : List Uuid :=
  tasks.flatMap fun t => t.spare kind

/-- A task keeps nothing but what it has drawn, by cases on how far it got. -/
theorem spare_sublist (t : Task) (kind : IdKind)
    : (t.spare kind).Sublist (t.drawn.uuid kind).toList := by
  unfold spare
  split
  · exact List.nil_sublist _
  · exact List.nil_sublist _
  · exact .refl _
  · exact .refl _

/-- A move stores and keeps no number more often than it was stored, kept or drawn: a command
that succeeds stores at most the number that it has drawn for what it creates.
-/
theorem Moves.count_spare {s s' : Store} (moves : t.Moves s t' s') (sound : s.Sound)
    (bound : t'.Bound) (m : Market) {new : List Uuid}
    (drew : (t'.drawn.uuid kind).toList.Sublist ((t.drawn.uuid kind).toList ++ new))
    (uuid : Uuid)
    : (s'.uuids kind).count uuid + (t'.spare kind).count uuid
      ≤ (s.uuids kind).count uuid + (t.spare kind).count uuid + new.count uuid := by
  by_cases gone : t.rest? = none
  · obtain rfl := moves.gone gone
    have undecided : t'.verdict? = none := by
      rw [verdict?, gone]
      rfl
    rw [moves.undecided undecided undecided]
    omega
  cases earlier : t.verdict? with
  | some result =>
      obtain ⟨decided, drawn, rfl⟩ := moves.decided result earlier
      rw [spare_congr earlier decided drawn]
      omega
  | none =>
      have spares : t.spare kind = (t.drawn.uuid kind).toList :=
        spare_of_not_ok gone (by simp [earlier])
      have grown := drew.count_le uuid
      have kept := (t'.spare_sublist kind).count_le uuid
      rw [List.count_append, ← spares] at grown
      cases now : t'.verdict? with
      | none =>
          rw [moves.undecided earlier now]
          omega
      | some result =>
          obtain ⟨notices, effect⟩ :=
            moves.effect result earlier now _ (t'.drawn.agrees_given m.clock)
          cases result with
          | error failure =>
              have idle := t.request.orderly_opening.effect_error (g := t'.drawn.given m.clock)
                (s := s) (congrArg Effect.result effect)
              have same : s' = s := congrArg Effect.store (effect.symm.trans idle)
              rw [same]
              omega
          | ok outcome =>
              rw [spare_of_ok now, List.count_nil]
              rcases t.request.uuids_opening sound effect kind with same | ⟨creates, added⟩
              · rw [same]
                omega
              · -- what was created has the number that was drawn for it
                have command : t'.command = t.command := by
                  rw [command, moves.request, Task.command]
                have mayEnd := bound.mayEnd m now
                rw [command] at mayEnd
                cases number : t'.drawn.uuid kind with
                | none =>
                    obtain ⟨e, failed⟩ := mayEnd.drew kind creates number
                    cases failed
                | some other =>
                    have given : (t'.drawn.given m.clock).uuid kind = other := by
                      simp only [Drawn.given, number, Option.getD_some]
                    rw [number, Option.toList_some] at grown
                    rw [added, given, List.count_append]
                    omega

end Task

namespace Floor

/-- No number is stored, and kept by tasks, more often than it was drawn. -/
def Thrifty (f : Floor) : Prop :=
  ∀ kind uuid,
    (f.market.store.uuids kind).count uuid + (Task.sparesOf f.tasks kind).count uuid
      ≤ (f.market.issued kind).count uuid

theorem thrifty_start (clock : Instant) (threshold : Nat) (outlet : Outlet)
    (source : IdKind → Nat → Uuid)
    : (start clock threshold outlet source).Thrifty := by
  intro kind uuid
  cases kind <;> exact Nat.le_refl 0

variable {f : Floor} {t : Task}

/-- A turn draws some numbers in addition to those that were drawn before. -/
theorem Consistent.after_issued (h : f.Consistent) (turn : Turn) (kind : IdKind)
    : f.market.issued kind <+: (f.after turn).market.issued kind := by
  have next := h.next turn
  generalize f.after turn = f' at next ⊢
  cases next with
  | @moved index t found moves =>
      obtain ⟨new, issued, -⟩ := t.step_issued f.market kind
      rw [issued]
      exact List.prefix_append _ _
  | @dropped index t found =>
      obtain ⟨locks, left⟩ := t.drop_market f.market
      rw [left]
      exact List.prefix_refl _
  | _ => exact List.prefix_refl _

/-- One task among others is counted apart from them. -/
theorem count_sparesOf (older younger : List Task) (t : Task) (kind : IdKind) (uuid : Uuid)
    : (Task.sparesOf (older ++ t :: younger) kind).count uuid
      = (t.spare kind).count uuid + (Task.sparesOf (older ++ younger) kind).count uuid := by
  simp only [Task.sparesOf, List.flatMap_append, List.flatMap_cons, List.count_append]
  omega

/-- A task that has just been begun keeps nothing. -/
theorem sparesOf_begun (tasks : List Task) (c : Command) (kind : IdKind)
    : Task.sparesOf (tasks ++ [Task.start c]) kind = Task.sparesOf tasks kind := by
  have nothing : (Task.start c).spare kind = [] :=
    List.sublist_nil.1 ((Task.start c).spare_sublist kind)
  rw [Task.sparesOf, List.flatMap_append, List.flatMap_singleton, nothing, List.append_nil,
    Task.sparesOf]

/-- Every turn keeps a floor thrifty, by cases on the turn. -/
theorem Thrifty.after (h : f.Thrifty) (consistent : f.Consistent)
    (bound : ∀ t ∈ f.tasks, t.Bound) (turn : Turn)
    : (f.after turn).Thrifty := by
  have next := consistent.next turn
  generalize f.after turn = f' at next ⊢
  intro kind uuid
  have before := h kind uuid
  cases next with
  | nothing turn => exact before
  | clock now => exact before
  | begun c =>
      rw [sparesOf_begun]
      exact before
  | continued found sequel =>
      obtain ⟨older, younger, tasks, -, set⟩ := split_at found
      rw [tasks, count_sparesOf] at before
      rw [sparesOf_begun, set, count_sparesOf]
      exact before
  | @moved index t found moves =>
      obtain ⟨older, younger, tasks, -, set⟩ := split_at found
      obtain ⟨new, issued, drew⟩ := t.step_issued f.market kind
      have kept := Task.kept_bound.step t f.market (bound t (List.mem_of_getElem? found))
      have counts := moves.count_spare consistent.sound kept f.market drew uuid
      rw [tasks, count_sparesOf] at before
      rw [set, count_sparesOf, issued, List.count_append]
      dsimp only
      omega
  | @dropped index t found =>
      obtain ⟨older, younger, tasks, -, set⟩ := split_at found
      obtain ⟨locks, left⟩ := t.drop_market f.market
      have fewer : ((t.drop f.market).1.spare kind).count uuid
          ≤ (t.spare kind).count uuid := by
        rcases t.drop_cases f.market with same | gone
        · rw [same]
        · rw [gone, Task.spare_of_gone rfl]
          exact Nat.zero_le _
      rw [tasks, count_sparesOf] at before
      rw [set, count_sparesOf, left]
      dsimp only [Market.issued] at before ⊢
      omega

/-- If no number of a kind was drawn twice, the store does not know one that a task keeps. -/
theorem Thrifty.unknown (h : f.Thrifty) {kind : IdKind} (fresh : (f.market.issued kind).Nodup)
    (member : t ∈ f.tasks) {uuid : Uuid} (spares : uuid ∈ t.spare kind)
    : uuid ∉ f.market.store.uuids kind := by
  intro known
  have counts := h kind uuid
  have once := List.nodup_iff_count_le_one.1 fresh uuid
  have stored := List.count_pos_iff.2 known
  have among : uuid ∈ Task.sparesOf f.tasks kind :=
    List.mem_flatMap.2 ⟨t, member, spares⟩
  have kept := List.count_pos_iff.2 among
  omega

end Floor

end DebtMarket
