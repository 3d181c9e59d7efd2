import DebtMarket.Proofs.Command.Issuance
import DebtMarket.Proofs.Floor.Offers
import DebtMarket.Proofs.Floor.Ownership
import DebtMarket.Proofs.Floor.Turns

/-! Issuances on the floor. A request that makes an instrument active has two parts, and any
other task may take steps between them. What the first part leaves to be done is owed by the
request until its second part has recorded it. So as long as requests are begun as a whole,
the instruments with rows are the active ones but for those that a request between its parts
still owes, and no request finds its instrument owned already.
-/

namespace DebtMarket

namespace Task

/-- The issuance that a task owes: its own one until it is decided, or the one that its
request has to go on with.
-/
def owes? (t : Task) : Option Command :=
  match t.rest?, t.verdict? with
  | none, _ => none
  | some _, none => t.request.issuance?
  | some _, some result => if t.continued then none else t.request.leaves? result

/-- Whether a request is between its two parts: it made an instrument active and has not
issued it yet.
-/
def between (t : Task) : Bool :=
  t.owes?.isSome

/-- A task of a whole request: it goes on only after it was decided, and what it issues is
not refused.
-/
structure Whole (t : Task) : Prop where
  request : ∀ id target actor, t.request ≠ .moveInstrument id target actor
  continued : t.continued = true → t.rest? ≠ none → t.verdict? ≠ none
  issues
    : ∀ id owner failure, t.request = .recordIssuance id owner
      → t.verdict? ≠ some (.error failure)

variable {t t' : Task} {s s' : Store} {owed : List Command}

theorem owes?_of_gone (gone : t.rest? = none) : t.owes? = none := by
  rw [owes?, gone]

theorem owes?_of_undecided (alive : t.rest? ≠ none) (undecided : t.verdict? = none)
    : t.owes? = t.request.issuance? := by
  obtain ⟨rest, alive⟩ := Option.ne_none_iff_exists'.1 alive
  rw [owes?, alive, undecided]

theorem owes?_of_decided {result : Except Failure Outcome}
    (decided : t.verdict? = some result)
    : t.owes? = if t.continued then none else t.request.leaves? result := by
  have alive : t.rest? ≠ none := by
    intro gone
    rw [verdict?, gone] at decided
    cases decided
  obtain ⟨rest, alive⟩ := Option.ne_none_iff_exists'.1 alive
  rw [owes?, alive, decided]

/-- A task that has finished owes its sequel. -/
theorem owes?_of_finished {outcome : Outcome} (finished : t.stage = .finished (.ok outcome))
    : t.owes? = t.sequel? := by
  rw [owes?_of_decided (Floor.verdict?_of_finished finished), sequel?, finished]
  rfl

/-- A new task owes at most the issuance that its request is: no other request is decided
with something left to do.
-/
theorem start_owes? (c : Command) : (start c).owes? = c.issuance? := by
  have alive : (start c).rest? ≠ none := Option.some_ne_none _
  cases decided : (start c).verdict? with
  | none => exact owes?_of_undecided alive decided
  | some result =>
      rw [owes?_of_decided decided]
      cases c with
      | transitionInstrument id target actor => cases decided
      | recordIssuance id owner => cases decided
      | _ => cases result <;> rfl

/-- A new task of a request that moves nothing by itself is whole. -/
theorem whole_start {c : Command} (noMove : ∀ id target actor, c ≠ .moveInstrument id target actor)
    : (start c).Whole where
  request := noMove
  continued := fun began => by cases began
  issues := fun id owner failure request decided => by
    cases c with
    | recordIssuance id owner => cases decided
    | _ => cases request

/-- An issuance that is decided by a move was recorded. -/
theorem Moves.issued (moves : t.Moves s t' s') {result : Except Failure Outcome}
    (gone : t.rest? ≠ none) (undecided : t.verdict? = none)
    (decided : t'.verdict? = some result) {id : InstrumentId} {owner : CompanyId}
    (request : t.request = .recordIssuance id owner) (clock : Instant)
    (chained : s.ledger.Chained) (issues : s.Issues (t.owes?.toList ++ owed))
    : ∃ outcome, result = .ok outcome := by
  obtain ⟨notices, effect⟩ :=
    moves.effect result undecided decided _ (t'.drawn.agrees_given clock)
  rw [Task.command, request] at effect
  rw [owes?_of_undecided gone undecided, request] at issues
  exact (Command.issues_recordIssuance effect chained issues).1

/-- A move of a task keeps count of the issuances, by cases on whether it is decided by the
move: then its whole command was carried out at once.
-/
theorem Moves.issues (moves : t.Moves s t' s') (whole : t.Whole)
    (continued : t'.continued = t.continued) (alive : t.rest? ≠ none → t'.rest? ≠ none)
    (clock : Instant) (sound : s.Sound) (chained : s.ledger.Chained)
    (issues : s.Issues (t.owes?.toList ++ owed))
    : t'.Whole ∧ s'.Issues (t'.owes?.toList ++ owed) := by
  by_cases gone : t.rest? = none
  · obtain rfl := moves.gone gone
    have undecided : t'.verdict? = none := by rw [verdict?, gone]; rfl
    obtain rfl := moves.undecided undecided undecided
    exact ⟨whole, issues⟩
  have still : t'.Whole := {
    request := moves.request ▸ whole.request
    continued := fun began _ => by
      rw [continued] at began
      obtain ⟨result, decided⟩ := Option.ne_none_iff_exists'.1 (whole.continued began gone)
      rw [(moves.decided result decided).1]
      exact Option.some_ne_none _
    issues := fun id owner failure request failed => by
      rw [moves.request] at request
      cases earlier : t.verdict? with
      | some result =>
          cases (moves.decided result earlier).1.symm.trans failed
          exact whole.issues id owner failure request earlier
      | none =>
          obtain ⟨outcome, recorded⟩ :=
            moves.issued gone earlier failed request clock chained issues
          cases recorded
  }
  refine ⟨still, ?_⟩
  cases earlier : t.verdict? with
  | some result =>
      obtain ⟨decided, -, rfl⟩ := moves.decided result earlier
      rw [owes?_of_decided decided, continued, moves.request, ← owes?_of_decided earlier]
      exact issues
  | none =>
      rw [owes?_of_undecided gone earlier] at issues
      cases now : t'.verdict? with
      | none =>
          obtain rfl := moves.undecided earlier now
          rw [owes?_of_undecided (alive gone) now, moves.request]
          exact issues
      | some result =>
          have unstarted : t.continued = false :=
            Bool.eq_false_iff.2 fun began => whole.continued began gone earlier
          obtain ⟨notices, effect⟩ :=
            moves.effect result earlier now _ (t'.drawn.agrees_given clock)
          rw [owes?_of_decided now, continued, unstarted, moves.request]
          exact t.request.issues_opening effect sound chained whole.request issues

end Task

/-- Whether a turn begins nothing but whole requests: no instrument is moved or issued by
itself.
-/
def Turn.isWhole : Turn → Bool
  | .request (.moveInstrument ..) | .request (.recordIssuance ..) => false
  | _ => true

namespace Floor

/-- Whether a turn drops a request between its two parts. -/
def cuts (f : Floor) : Turn → Bool
  | .drop index => (f.tasks[index]?).any Task.between
  | _ => false

/-- Whether no request is dropped between its two parts by some turns. -/
def uncut (f : Floor) : List Turn → Bool
  | [] => true
  | turn :: rest => !f.cuts turn && (f.after turn).uncut rest

/-- The issuances that are owed on a floor. -/
def owed (f : Floor) : List Command :=
  f.tasks.filterMap Task.owes?

/-- The instruments with rows are the active ones but for those whose issuance is owed by a
task or was lost with one that was dropped.
-/
structure Issues (lost : List Command) (f : Floor) : Prop where
  tasks : ∀ t ∈ f.tasks, t.Whole
  chained : f.market.store.ledger.Chained
  store : f.market.store.Issues (f.owed ++ lost)

variable {f : Floor} {lost : List Command} {older younger : List Task} {t : Task}

/-- What one task owes may be counted before all else. -/
theorem perm_owed (split : f.tasks = older ++ t :: younger) (lost : List Command)
    : (f.owed ++ lost).Perm
        (t.owes?.toList ++ ((older ++ younger).filterMap Task.owes? ++ lost)) := by
  have first : (t :: (older ++ younger)).filterMap Task.owes?
      = t.owes?.toList ++ (older ++ younger).filterMap Task.owes? := by
    rw [List.filterMap_cons]
    cases t.owes? <;> rfl
  rw [owed, split, ← List.append_assoc, ← first]
  exact (List.perm_middle.filterMap _).append_right lost

theorem perm_owed_last (m : Market) (tasks : List Task) (lost : List Command)
    : (owed ⟨m, tasks ++ [t]⟩ ++ lost).Perm
        (t.owes?.toList ++ (tasks.filterMap Task.owes? ++ lost)) := by
  have split : (Floor.mk m (tasks ++ [t])).tasks = tasks ++ t :: [] := rfl
  simpa only [List.append_nil] using perm_owed split lost

/-- A task that is put in the place of another one is whole, if all tasks were. -/
theorem Issues.replaced (issues : f.Issues lost) {index : Nat} {t' : Task} (whole : t'.Whole)
    : ∀ t ∈ f.tasks.set index t', t.Whole := by
  intro t member
  rcases List.mem_or_eq_of_mem_set member with member | rfl
  · exact issues.tasks t member
  · exact whole

/-- A request that goes on hands what it owes to its sequel. -/
theorem Issues.continued (issues : f.Issues lost) {index : Nat} {next : Command}
    (found : f.tasks[index]? = some t) (sequel : t.sequel? = some next)
    : Issues lost
        { f with
          tasks := f.tasks.set index { t with continued := true } ++ [Task.start next] } := by
  obtain ⟨outcome, finished, goesOn⟩ := Task.sequel?_eq_some sequel
  obtain ⟨id, target, actor, transition, request, rfl, -, rfl⟩ :=
    Command.sequel?_eq_some goesOn
  have decided := verdict?_of_finished finished
  obtain ⟨older, younger, split, -, replaced⟩ := split_at found
  refine ⟨fun t' member => ?_, issues.chained, ?_⟩
  · rcases List.mem_append.1 member with member | new
    · have whole := issues.tasks t (List.mem_of_getElem? found)
      have still : ({ t with continued := true } : Task).Whole :=
        ⟨whole.request, fun _ _ => (decided ▸ Option.some_ne_none _ : t.verdict? ≠ none),
          whole.issues⟩
      exact issues.replaced still t' member
    · rw [List.mem_singleton.1 new]
      exact Task.whole_start nofun
  · have owed := (Task.owes?_of_finished finished).trans sequel
    have settled : ({ t with continued := true } : Task).owes? = none :=
      (Task.owes?_of_decided (t := { t with continued := true }) decided).trans (if_pos rfl)
    have before := issues.store.perm (perm_owed split lost)
    refine Store.Issues.perm ?_ (perm_owed_last _ _ lost).symm
    rw [Task.start_owes?, replaced, List.filterMap_append,
      List.filterMap_cons_none settled, ← List.filterMap_append]
    rw [owed] at before
    exact before

/-- A turn of whole requests keeps count of the issuances, and loses none if it drops no
request between its parts; by cases on what it does.
-/
theorem Issues.after (issues : f.Issues lost) (h : f.Consistent) {turn : Turn}
    (whole : turn.isWhole = true)
    : ∃ lost', (f.after turn).Issues lost' ∧ (f.cuts turn = false → lost' = lost) := by
  have chained : (f.after turn).market.store.ledger.Chained := by
    rcases h.after_store turn with same | yields
    · rw [same]
      exact issues.chained
    · exact (yields.chained issues.chained).1
  have next := h.next turn
  generalize f.after turn = f' at next chained ⊢
  cases next with
  | nothing turn => exact ⟨lost, issues, fun _ => rfl⟩
  | clock now => exact ⟨lost, ⟨issues.tasks, chained, issues.store⟩, fun _ => rfl⟩
  | begun c =>
      refine ⟨lost, ⟨fun t member => ?_, chained, ?_⟩, fun _ => rfl⟩
      · rcases List.mem_append.1 member with member | new
        · exact issues.tasks t member
        · rw [List.mem_singleton.1 new]
          apply Task.whole_start
          rintro id target actor rfl
          cases whole
      · have nothing : (Task.start c).owes? = none := by
          rw [Task.start_owes?]
          cases c with
          | recordIssuance id owner => cases whole
          | _ => rfl
        rw [owed, List.filterMap_append, List.filterMap_cons_none nothing, List.filterMap_nil,
          List.append_nil]
        exact issues.store
  | @continued index t next found sequel =>
      exact ⟨lost, issues.continued found sequel, fun _ => rfl⟩
  | @moved index t found moves =>
      obtain ⟨older, younger, split, -, replaced⟩ := split_at found
      obtain ⟨still, store⟩ := moves.issues (issues.tasks t (List.mem_of_getElem? found))
        (t.step_continued f.market) Task.step_rest? f.market.clock h.sound issues.chained
        (issues.store.perm (perm_owed split lost))
      refine ⟨lost, ⟨issues.replaced still, chained, ?_⟩, fun _ => rfl⟩
      exact store.perm (perm_owed (replaced _) lost).symm
  | @dropped index t found =>
      obtain ⟨older, younger, split, -, replaced⟩ := split_at found
      have store := issues.store.perm (perm_owed split lost)
      rcases t.drop_cases f.market with same | dropped
      · refine ⟨lost, ?_, fun _ => rfl⟩
        rw [same, replaced t, ← split]
        exact issues
      · have gone : (t.drop f.market).1.rest? = none := by
          rw [dropped]
          rfl
        have still : (t.drop f.market).1.Whole := by
          refine ⟨?_, fun _ alive => absurd gone alive, fun id owner failure _ failed => ?_⟩
          · rw [dropped]
            exact (issues.tasks t (List.mem_of_getElem? found)).request
          · rw [Task.verdict?, gone] at failed
            cases failed
        refine ⟨t.owes?.toList ++ lost, ⟨issues.replaced still, chained, ?_⟩, fun uncut => ?_⟩
        · refine Store.Issues.perm ?_ (perm_owed (replaced _) _).symm
          rw [Task.drop_store, Task.owes?_of_gone gone]
          exact store.perm (List.perm_append_comm_assoc _ _ _)
        · rw [cuts, found, Option.any_some, Task.between, Option.isSome_eq_false_iff,
            Option.isNone_iff_eq_none] at uncut
          rw [uncut]
          rfl

/-- Every schedule of whole requests keeps count of the issuances, and loses none if it drops
no request between its parts; by induction on it.
-/
theorem Issues.run (issues : f.Issues lost) (h : f.Consistent) {schedule : List Turn}
    (whole : schedule.all Turn.isWhole = true)
    : ∃ lost', (f.run schedule).Issues lost' ∧ (f.uncut schedule = true → lost' = lost) := by
  induction schedule generalizing f lost with
  | nil => exact ⟨lost, issues, fun _ => rfl⟩
  | cons turn rest ih =>
      rw [List.all_cons, Bool.and_eq_true] at whole
      obtain ⟨between, issues', kept⟩ := issues.after h whole.1
      obtain ⟨last, issues'', kept'⟩ := ih issues' (h.after turn) whole.2
      refine ⟨last, issues'', fun uncut => ?_⟩
      rw [Floor.uncut, Bool.and_eq_true, Bool.not_eq_true'] at uncut
      rw [kept' uncut.2, kept uncut.1]

theorem issues_start (clock : Instant) (threshold : Nat) (outlet : Outlet)
    (source : IdKind → Nat → Uuid)
    : (start clock threshold outlet source).Issues [] where
  tasks := fun _ member => absurd member List.not_mem_nil
  chained := Ledger.chained_empty
  store := Store.issues_empty

end Floor

-----------------------------------------------------------------------------------------
-- What is issued
-----------------------------------------------------------------------------------------

namespace Store

/-- An instrument is issued exactly if it is active: its rows begin with its issuance to its
issuer, which is the only one, and exactly one of them is open.
-/
structure IssuedIfActive (s : Store) (id : InstrumentId) : Prop where
  issued_iff
    : s.ledger.rowsOf id ≠ [] ↔ ∃ x, s.instruments.get? id = some x ∧ x.status = .active
  rows
    : ∀ x, s.instruments.get? id = some x → x.status = .active
      → ∃ first rest, s.ledger.rowsOf id = first :: rest ∧ first.owner = x.issuer
          ∧ first.reason = .issuance ∧ ∀ row ∈ rest, row.reason ≠ .issuance
  owned
    : s.ledger.rowsOf id ≠ [] → ∃ row, (s.ledger.rowsOf id).filter Ownership.isActive = [row]

/-- If no issuance is owed, then every instrument is issued exactly if it is active. -/
theorem Issues.issuedIfActive {s : Store} (h : s.Issues []) (chained : s.ledger.Chained)
    (id : InstrumentId)
    : s.IssuedIfActive id := by
  have chain := chained id
  have first (x : Instrument) (stored : s.instruments.get? id = some x)
      (active : x.status = .active)
      : s.ledger.firstOwner? id = some x.issuer := by
    have issuer := activeIssuer?_eq_some.2 ⟨x, stored, active, rfl⟩
    cases first : s.ledger.firstOwner? id with
    | none => exact absurd (h.settled id x.issuer issuer first) List.not_mem_nil
    | some owner => rw [← h.issued id owner first, issuer]
  refine {
    issued_iff := ⟨fun rows => ?_, ?_⟩
    rows := fun x stored active => ?_
    owned := fun rows => ?_
  }
  · obtain ⟨owner, issued⟩ :=
      Option.ne_none_iff_exists'.1 (mt Ledger.firstOwner?_eq_none.1 rows)
    obtain ⟨x, stored, active, -⟩ := activeIssuer?_eq_some.1 (h.issued id owner issued)
    exact ⟨x, stored, active⟩
  · rintro ⟨x, stored, active⟩ none
    rw [Ledger.firstOwner?_eq_none.2 none] at first
    cases first x stored active
  · have first := first x stored active
    cases rows : s.ledger.rowsOf id with
    | nil =>
        rw [Ledger.firstOwner?_eq_none.2 rows] at first
        cases first
    | cons row rest =>
        rw [Ledger.firstOwner?, rows] at first
        rw [rows] at chain
        exact ⟨row, rest, rfl, Option.some.inj first, chain.issued row rfl, chain.handed⟩
  · obtain ⟨earlier, last, split⟩ := (List.eq_nil_or_concat _).resolve_left rows
    refine ⟨last, ?_⟩
    rw [chain.active, split, List.concat_eq_append, List.getLast?_concat]
    rfl

/-- A move of an instrument does not come to the failure that somebody owns one. -/
def MovesUnowned (c : Command) (result : Except Failure Outcome) (_ : Store) : Prop :=
  ∀ id target actor instrument owner, c = .moveInstrument id target actor
    → result ≠ .error (.market (.alreadyOwned instrument owner))

theorem establishes_movesUnowned : Command.Establishes MovesUnowned := by
  rintro c g s result s' notices effect id target actor instrument owner command rfl
  have failed : ((Command.moveInstrument id target actor).operation.effect g s).result
      = .error (.market (.alreadyOwned instrument owner)) := by
    rw [← command, effect]
  rw [Command.operation, Operation.effect_map] at failed
  cases ended : ((Operation.moveInstrument id target actor).effect g s).result with
  | ok transition =>
      rw [Effect.andThen, ended] at failed
      cases failed
  | error failure =>
      rw [Effect.andThen, ended] at failed
      cases failed
      exact Operation.effect_moveInstrument target actor instrument owner ended

end Store

namespace Floor

/-- As long as instruments are moved and issued by whole requests only, at every moment at
which no request is between its parts, and none was dropped there, every instrument is issued
exactly if it is active; and neither part of such a request finds its instrument owned.
-/
theorem issued_iff_active (clock : Instant) (threshold : Nat) (outlet : Outlet)
    (source : IdKind → Nat → Uuid) (schedule : List Turn)
    (whole : schedule.all Turn.isWhole = true)
    : let initial := start clock threshold outlet source
      let floor := initial.run schedule
      (initial.uncut schedule = true → (∀ t ∈ floor.tasks, t.between = false)
        → ∀ id, floor.market.store.IssuedIfActive id)
      ∧ ∀ t ∈ floor.tasks,
          (∀ id target actor instrument owner, t.request = .transitionInstrument id target actor
            → t.stage ≠ .finished (.error (.market (.alreadyOwned instrument owner))))
          ∧ ∀ id owner failure, t.request = .recordIssuance id owner
            → t.stage ≠ .finished (.error failure) := by
  intro initial floor
  have consistent := consistent_start clock threshold outlet source
  obtain ⟨lost, issues, kept⟩ :=
    (issues_start clock threshold outlet source).run consistent whole
  refine ⟨fun uncut settled id => ?_, fun t member => ⟨?_, ?_⟩⟩
  · obtain rfl := kept uncut
    have nothing : floor.owed = [] := by
      refine List.filterMap_eq_nil_iff.2 fun t member => ?_
      simpa [Task.between] using settled t member
    have store := issues.store
    rw [List.append_nil] at store
    exact (nothing ▸ store : Store.Issues [] _).issuedIfActive issues.chained id
  · intro id target actor instrument owner request failed
    have decided := consistent.decided Store.establishes_movesUnowned
      (fun _ _ _ _ _ _ moves => moves) (decided_start clock threshold outlet source) schedule
    exact decided t member _ (verdict?_of_finished failed) id target actor instrument owner
      (by rw [Task.command, request]; rfl) rfl
  · intro id owner failure request failed
    exact (issues.tasks t member).issues id owner failure request (verdict?_of_finished failed)

namespace Sample

open Market.Sample

/-- The terms of an instrument. -/
def note : InstrumentTerms :=
  {
    name := "note",
    faceValue := one.decimal,
    currency := euro,
    maturityDate := nextYear,
    maturityPayment := one.decimal,
    publicPayload := none
  }

/-- A draft is handed in and approved by two requests at the same time; both ask to go on
with their sequels.
-/
def approvals : List Turn :=
  List.flatten
    [
      inTurn [.createDraft seller note, .transitionInstrument ⟨⟨0⟩⟩ .pendingApproval seller],
      [
        .request (.transitionInstrument ⟨⟨0⟩⟩ .active regulator),
        .request (.transitionInstrument ⟨⟨0⟩⟩ .active regulator)
      ],
      (List.replicate 16 [2, 3]).flatten.map .step,
      [.proceed 2, .proceed 3],
      List.replicate 16 (.step 4)
    ]

end Sample

/-- An instrument that is approved twice at the same time is issued once. -/
theorem issued_once_approved_twice
    : Sample.approvals.all Turn.isWhole = true
      ∧ Sample.opened.uncut Sample.approvals = true
      ∧ (∀ t ∈ (Sample.opened.run Sample.approvals).tasks, t.between = false)
      ∧ ∃ row, ((Sample.opened.run Sample.approvals).market.store.ledger.rowsOf
          ⟨⟨0⟩⟩).filter Ownership.isActive = [row] := by
  have whole : Sample.approvals.all Turn.isWhole = true := by decide
  have uncut : Sample.opened.uncut Sample.approvals = true := by cbv
  have settled : (Sample.opened.run Sample.approvals).tasks.all (fun t => !t.between)
      = true := by cbv
  have settled (t : Task) (member : t ∈ (Sample.opened.run Sample.approvals).tasks)
      : t.between = false := by
    simpa using List.all_eq_true.1 settled t member
  have issued : ((Sample.opened.run Sample.approvals).market.store.ledger.rowsOf
      ⟨⟨0⟩⟩).isEmpty = false := by cbv
  have agrees := issued_iff_active Market.Sample.newYear 1 .unbounded
    (fun _ n => ⟨BitVec.ofNat 128 n⟩) Sample.approvals whole
  rw [← Sample.opened] at agrees
  exact ⟨whole, uncut, settled,
    (agrees.1 uncut settled ⟨⟨0⟩⟩).owned (List.isEmpty_eq_false_iff.1 issued)⟩

end Floor

end DebtMarket
