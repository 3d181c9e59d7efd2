import DebtMarket.Proofs.Command.Books
import DebtMarket.Proofs.Floor.Ownership
import DebtMarket.Proofs.Floor.Selection
import DebtMarket.Proofs.Floor.Turns

/-! Sellers owned what they listed. A task that enters something for an instrument reads the
clock while it has the instrument locked, so nothing in the books of the instrument is from a
later time, and nothing is entered there by others until the task has made its write. If the
clock is never set back between two readings, then every listing is vouched for by a row of its
seller that was open when the instrument was listed.
-/

namespace DebtMarket

namespace Task

variable {t t' : Task} {s s' : Store} {m : Market} {instrument : InstrumentId}
  {past : List Instant}

/-- A task that changes the store writes what its command writes at the time that it has read. -/
theorem Moves.performs (h : t.Moves s t' s') (clock : Instant) (changed : s' ≠ s)
    : ∃ outcome w notice,
        Performs (t'.drawn.given clock) s t.command outcome (some w) notice
        ∧ s.write w = .ok s' := by
  cases before : t.verdict? with
  | some result => exact absurd (h.decided result before).2.2 changed
  | none =>
      cases now : t'.verdict? with
      | none => exact absurd (h.undecided before now) changed
      | some result =>
          have agrees := t'.drawn.agrees_given clock
          obtain ⟨notices, effect⟩ := h.effect result before now _ agrees
          have store : (t.command.operation.effect (t'.drawn.given clock) s).store = s' := by
            rw [effect]
          obtain ⟨failure, idle⟩ | ⟨outcome, w, notice, s₁, performs, wrote, ends⟩ :=
            t.request.effect_opening (t'.drawn.given clock) s
          · rw [command, idle] at store
            exact absurd store.symm changed
          · rw [command, ends] at store
            cases store
            cases w with
            | none => exact absurd wrote changed
            | some w => exact ⟨outcome, w, notice, performs, wrote⟩

/-- A step that changes the store is a write, and reads nothing. -/
theorem step_store_ne (changed : (t.step m).2.store ≠ m.store)
    : ∃ w next, t.rest? = some (.call (.write w) next) ∧ (t.step m).1.drawn = t.drawn := by
  have steps := t.steps_step m
  generalize (t.step m).1 = t', (t.step m).2 = m' at steps changed ⊢
  cases steps with
  | @call c next rest =>
      cases c with
      | write w => exact ⟨w, next, rest, rfl⟩
      | _ => exact absurd rfl changed
  | _ => exact absurd rfl changed

/-- What a task reads from the clock by its next step, if it does. -/
def reading? (t : Task) (clock : Instant) : Option Instant :=
  match t.rest? with
  | some (.call .now _) => some clock
  | _ => none

-----------------------------------------------------------------------------------------
-- How far a task got with an instrument
-----------------------------------------------------------------------------------------

/-- How far a task got that is to enter something for an instrument: it has not locked the
instrument yet, has locked it but not read the clock, has read a time that nothing in the books
of the instrument is later than, or is decided.
-/
inductive Phase (t : Task) (instrument : InstrumentId) (past : List Instant) (s : Store) : Prop
  | awaits (rest : ∀ p, t.rest? = some p → p.Awaits (.instrument instrument))
  | locked (mine : .instrument instrument ∈ t.scopes)
    (rest : ∀ p, t.rest? = some p → p.Undated)
  | dated {time} (mine : .instrument instrument ∈ t.scopes)
    (read : t.drawn.instant = some time) (known : time ∈ past) (early : s.Early instrument time)
  | decided {result} (decided : t.verdict? = some result)

/-- A task stays as far as it got when more times are known, if the books of the instrument stay
as early as they are while it has the instrument locked.
-/
theorem Phase.mono (h : t.Phase instrument past s) {later : List Instant}
    (more : past ⊆ later)
    (kept : .instrument instrument ∈ t.scopes
      → ∀ time, s.Early instrument time → s'.Early instrument time)
    : t.Phase instrument later s' := by
  cases h with
  | awaits rest => exact .awaits rest
  | locked mine rest => exact .locked mine rest
  | dated mine read known early => exact .dated mine read (more known) (kept mine _ early)
  | decided decided => exact .decided decided

/-- A task is as far as another one that has the same to do, the same locks and has read the
same.
-/
theorem Phase.congr (h : t.Phase instrument past s) (rest : t'.rest? = t.rest?)
    (scopes : t'.scopes = t.scopes) (drawn : t'.drawn = t.drawn)
    : t'.Phase instrument past s := by
  cases h with
  | awaits waits => exact .awaits (rest ▸ waits)
  | locked mine undated => exact .locked (scopes ▸ mine) (rest ▸ undated)
  | dated mine read known early => exact .dated (scopes ▸ mine) (drawn ▸ read) known early
  | decided decided =>
      rw [verdict?, ← rest] at decided
      exact .decided decided

/-- A task that writes has read a time that nothing in the books is later than. -/
theorem Phase.of_write (h : t.Phase instrument past s) {w : Write}
    {next : Except StoreError Unit → Operation Outcome}
    (rest : t.rest? = some (.call (.write w) next))
    : ∃ time, t.drawn.instant = some time ∧ time ∈ past ∧ s.Early instrument time := by
  cases h with
  | awaits waits => exact (waits _ rest).elim
  | locked mine undated => exact (undated _ rest).elim
  | dated mine read known early => exact ⟨_, read, known, early⟩
  | decided decided =>
      rw [verdict?_eq rest] at decided
      cases decided

/-- The answer to a call takes an undecided task on: by cases on how far it got and on the call.
-/
theorem Phase.call {c : Call} {next : c.Reply → Operation Outcome}
    (h : t.Phase instrument past s) (rest : t.rest? = some (.call c next))
    (undecided : t.verdict? = none) (m : Market)
    (known : ∀ time ∈ t.reading? m.clock, time ∈ past ∧ s.Early instrument time)
    : Phase
        {
          t with
          drawn := t.drawn.after c (m.answer c).1,
          stage := .running (next (m.answer c).1)
        }
        instrument past s := by
  have left {P : Operation Outcome → Prop} (holds : P (next (m.answer c).1))
      : ∀ p, some (next (m.answer c).1) = some p → P p := by
    rintro p ⟨⟩
    exact holds
  cases h with
  | awaits waits =>
      have waits := waits _ rest
      cases c with
      | now | write => exact waits.elim
      | draw | query => exact .awaits (left (waits _))
      | publish => exact .awaits (left waits)
  | locked mine undated =>
      have undated := undated _ rest
      cases c with
      | now =>
          obtain ⟨seen, early⟩ := known m.clock (by rw [reading?, rest]; rfl)
          exact .dated mine rfl seen early
      | write => exact undated.elim
      | draw | query => exact .locked mine (left (undated _))
      | publish => exact .locked mine (left undated)
  | dated mine read seen early =>
      cases c with
      | now =>
          obtain ⟨seen, early⟩ := known m.clock (by rw [reading?, rest]; rfl)
          exact .dated mine rfl seen early
      | _ => exact .dated mine read seen early
  | decided decided =>
      rw [undecided] at decided
      cases decided

/-- A step takes a task on: by cases on the step. -/
theorem Phase.step (h : t.Phase instrument past m.store) (consistent : t.Consistent m.store)
    (sound : m.store.Sound)
    (known : ∀ time ∈ t.reading? m.clock, time ∈ past ∧ m.store.Early instrument time)
    : (t.step m).1.Phase instrument past (t.step m).2.store := by
  have moves := consistent.step sound
  cases decided : (t.step m).1.verdict? with
  | some result => exact .decided decided
  | none =>
      have undecided : t.verdict? = none := by
        cases before : t.verdict? with
        | none => rfl
        | some result =>
            rw [(moves.decided result before).1] at decided
            cases decided
      rw [moves.undecided undecided decided]
      have steps := t.steps_step m
      generalize (t.step m).1 = t', (t.step m).2 = m' at steps decided
      cases steps with
      | idle stage locks same => exact h.congr same rfl rfl
      | call rest => exact h.call rest undecided m known
      | @lock guard next rest =>
          cases h with
          | awaits waits =>
              obtain ⟨same, undated⟩ := waits _ rest
              refine .locked (List.mem_map.2 ⟨guard, List.mem_cons_self, same⟩) ?_
              rintro p ⟨⟩
              exact undated
          | locked mine undated =>
              have undated := undated _ rest
              refine .locked (List.mem_cons_of_mem _ mine) ?_
              rintro p ⟨⟩
              exact undated
          | dated mine read seen early =>
              exact .dated (List.mem_cons_of_mem _ mine) read seen early
          | decided earlier =>
              rw [undecided] at earlier
              cases earlier
      | @unlock next locks rest =>
          -- a task gives up locks only once it is decided
          obtain ⟨well, scope, scopes, -, closing⟩ := (consistent.orderly _ rest).of_unlock
          obtain ⟨result, ends⟩ := closing.verdict_eq
          exact .decided ends

end Task

namespace Floor

variable {f : Floor} {past : List Instant}

/-- What is read from the clock in a turn, if anything is. -/
def reading? (f : Floor) : Turn → Option Instant
  | .step index => f.tasks[index]?.bind fun t => t.reading? f.market.clock
  | _ => none

/-- What is read from the clock over a schedule, in the order of the readings. -/
def readings (f : Floor) : List Turn → List Instant
  | [] => []
  | turn :: rest => (f.reading? turn).toList ++ (f.after turn).readings rest

/-- All times in the books were read from the clock, every task is as far as it has to be with
the instrument that it enters something for, and every listing is vouched for.
-/
structure Timely (f : Floor) (past : List Instant) : Prop where
  dated : f.market.store.Dated past
  tasks
    : ∀ t ∈ f.tasks, ∀ instrument, t.command.books? = some instrument
      → t.Phase instrument past f.market.store
  chained : f.market.store.ledger.Chained
  vouched : f.market.store.Vouched

theorem Timely.mono (h : f.Timely past) {later : List Instant} (more : past ⊆ later)
    : f.Timely later where
  dated :=
    ⟨fun x stored => more (h.dated.listings x stored), fun row old => more (h.dated.rows row old)⟩
  tasks := fun t member instrument books =>
    (h.tasks t member instrument books).mono more fun _ _ early => early
  chained := h.chained
  vouched := h.vouched

theorem timely_start (clock : Instant) (threshold : Nat) (outlet : Outlet)
    (source : IdKind → Nat → Uuid)
    : (start clock threshold outlet source).Timely [] where
  dated :=
    ⟨fun _ stored => absurd stored List.not_mem_nil, fun _ old => absurd old List.not_mem_nil⟩
  tasks := fun _ member => absurd member List.not_mem_nil
  chained := Ledger.chained_empty
  vouched := fun _ stored => absurd stored List.not_mem_nil

/-- A task that is begun on a timely floor has not locked anything yet. -/
theorem Timely.append (h : f.Timely past) (c : Command)
    : Timely { f with tasks := f.tasks ++ [Task.start c] } past where
  dated := h.dated
  tasks := fun t member instrument books => by
    rcases List.mem_append.1 member with old | new
    · exact h.tasks t old instrument books
    · obtain rfl := List.mem_singleton.1 new
      refine .awaits ?_
      rintro p ⟨⟩
      exact c.awaits_opening books
  chained := h.chained
  vouched := h.vouched

/-- A step leaves the store or enters something in the books. What it enters for an instrument has
a time that was read, and nothing in the books of the instrument is later than that.
-/
theorem Timely.books (h : f.Timely past) (consistent : f.Consistent) {t : Task}
    (member : t ∈ f.tasks)
    : (t.step f.market).2.store = f.market.store
      ∨ ∃ now, f.market.store.Books now t.command (t.step f.market).2.store
        ∧ (∀ instrument, t.command.books? = some instrument
          → now ∈ past ∧ f.market.store.Early instrument now)
        ∧ f.market.store.Yields (t.step f.market).2.store := by
  by_cases changed : (t.step f.market).2.store = f.market.store
  · exact .inl changed
  · have moves := (consistent.tasks t member).step consistent.sound
    obtain ⟨outcome, w, notice, performs, written⟩ := moves.performs f.market.clock changed
    have books := performs.books consistent.sound (Store.write_takes written)
    refine .inr ⟨_, books, fun instrument enters => ?_, _, _, _, _, _, performs, written⟩
    obtain ⟨w, next, rest, drawn⟩ := Task.step_store_ne changed
    obtain ⟨time, read, known, early⟩ := (h.tasks t member instrument enters).of_write rest
    rw [drawn, Drawn.given, read, Option.getD_some]
    exact ⟨known, early⟩

/-- A step keeps a floor timely: what it writes has the time that its task has read, and others
enter nothing for the instruments that a task has locked.
-/
theorem Timely.moved (h : f.Timely past) (consistent : f.Consistent) {index : Nat} {t : Task}
    (found : f.tasks[index]? = some t)
    (late
      : ∀ time ∈ t.reading? f.market.clock,
        time ∈ past ∧ ∀ instrument, f.market.store.Early instrument time)
    : Timely ⟨(t.step f.market).2, f.tasks.set index (t.step f.market).1⟩ past := by
  have member := List.mem_of_getElem? found
  have mine := consistent.tasks t member
  have moves := mine.step consistent.sound
  have stored := h.books consistent member
  obtain ⟨older, younger, tasks, -, set⟩ := split_at found
  refine {
    dated := ?_
    tasks := fun other present instrument enters => ?_
    chained := ?_
    vouched := ?_
  }
  · rcases stored with same | ⟨now, books, known, -⟩
    · rw [same]
      exact h.dated
    · refine books.dated h.dated fun enters => ?_
      obtain ⟨instrument, enters⟩ := Option.ne_none_iff_exists'.1 enters
      exact (known instrument enters).1
  · simp only [set] at present
    rcases List.mem_cons.1 (List.perm_middle.mem_iff.1 present) with rfl | apart
    · have command : (t.step f.market).1.command = t.command := by
        rw [Task.command, moves.request, Task.command]
      rw [command] at enters
      refine (h.tasks t member instrument enters).step mine consistent.sound fun time read => ?_
      obtain ⟨known, early⟩ := late time read
      exact ⟨known, early instrument⟩
    · have present : other ∈ f.tasks := by
        rw [tasks]
        exact List.perm_middle.mem_iff.2 (List.mem_cons_of_mem _ apart)
      have phase := h.tasks other present instrument enters
      refine phase.mono (List.Subset.refl _) fun theirs time early => ?_
      rcases stored with same | ⟨now, books, -⟩
      · rw [same]
        exact early
      · have keeps := moves.apart [.instrument instrument] fun scope only => by
          rw [List.mem_singleton.1 only]
          exact fun mine => consistent.locked.exclusive tasks apart mine theirs
        have lock := List.mem_singleton_self (Scope.instrument instrument)
        exact books.early early (keeps.offered _ lock) (keeps.owned _ lock)
  · rcases stored with same | ⟨now, -, -, yields⟩
    · rw [same]
      exact h.chained
    · exact (yields.chained h.chained).1
  · rcases stored with same | ⟨now, books, known, -⟩
    · rw [same]
      exact h.vouched
    · exact books.vouched h.chained h.vouched fun instrument enters => (known instrument enters).2

/-- A turn keeps a floor timely if nothing is read in it that is earlier than what was read
before: by cases on the turn.
-/
theorem Timely.after (h : f.Timely past) (consistent : f.Consistent) (turn : Turn)
    (late : ∀ time ∈ f.reading? turn, ∀ earlier ∈ past, earlier ≤ time)
    : (f.after turn).Timely (past ++ (f.reading? turn).toList) := by
  have before := h.mono (List.subset_append_left past (f.reading? turn).toList)
  have next := consistent.next turn
  generalize f.after turn = f' at next ⊢
  cases next with
  | nothing turn => exact before
  | begun c => exact before.append c
  | @continued index t next found sequel =>
      refine Timely.append (f := { f with tasks := f.tasks.set index _ }) ?_ next
      refine ⟨before.dated, fun other member instrument enters => ?_, before.chained,
        before.vouched⟩
      rcases List.mem_or_eq_of_mem_set member with old | rfl
      · exact before.tasks other old instrument enters
      · exact (before.tasks t (List.mem_of_getElem? found) instrument enters).congr rfl rfl rfl
  | @moved index t found moves =>
      refine before.moved consistent found fun time read => ?_
      have reads : f.reading? (.step index) = some time := by
        rw [reading?, found]
        exact read
      refine ⟨by simp [reads], fun instrument => ?_⟩
      exact h.dated.early fun earlier known => late time reads earlier known
  | @dropped index t found =>
      have store : (t.drop f.market).2.store = f.market.store := t.drop_store f.market
      refine ⟨store ▸ before.dated, fun other member instrument enters => ?_,
        store ▸ before.chained, store ▸ before.vouched⟩
      rw [store]
      rcases List.mem_or_eq_of_mem_set member with old | rfl
      · exact before.tasks other old instrument enters
      · rcases t.drop_cases f.market with same | gone
        · rw [same] at enters ⊢
          exact before.tasks t (List.mem_of_getElem? found) instrument enters
        · rw [gone]
          exact .awaits nofun
  | clock now => exact ⟨before.dated, before.tasks, before.chained, before.vouched⟩

/-- A turn keeps a floor timely if the times that are read in it and later never decrease. -/
theorem Timely.next (h : f.Timely past) (consistent : f.Consistent) (turn : Turn)
    {later : List Instant}
    (forward : ((past ++ (f.reading? turn).toList) ++ later).Pairwise (· ≤ ·))
    : (f.after turn).Timely (past ++ (f.reading? turn).toList) := by
  refine h.after consistent turn fun time read earlier known => ?_
  have now := (List.pairwise_append.1 forward).1
  exact (List.pairwise_append.1 now).2.2 earlier known time (Option.mem_toList.2 read)

/-- A schedule keeps a floor timely if the times that are read never decrease: by induction on
the schedule.
-/
theorem Timely.run (h : f.Timely past) (consistent : f.Consistent) (schedule : List Turn)
    (forward : (past ++ f.readings schedule).Pairwise (· ≤ ·))
    : (f.run schedule).Timely (past ++ f.readings schedule) := by
  induction schedule generalizing f past with
  | nil => simpa [readings] using h
  | cons turn rest ih =>
      rw [readings, ← List.append_assoc] at forward ⊢
      exact ih (h.next consistent turn forward) (consistent.after turn) forward

/-- If no time that is read is earlier than the one read before it, then every listing is at
every moment vouched for by a row of its instrument: its seller owned the instrument when it was
listed.
-/
theorem listings_vouched (clock : Instant) (threshold : Nat) (outlet : Outlet)
    (source : IdKind → Nat → Uuid) (schedule : List Turn)
    (forward : ((start clock threshold outlet source).readings schedule).IsChain (· ≤ ·))
    : ((start clock threshold outlet source).run schedule).market.store.Vouched :=
  ((timely_start clock threshold outlet source).run
    (consistent_start clock threshold outlet source) schedule
    (List.isChain_iff_pairwise.1 forward)).vouched

namespace Sample

open Market.Sample

/-- The second second of the year 2024. -/
def secondLater : Instant :=
  newYear.addSeconds 1

/-- A listed instrument is handed on a second after it was listed. -/
def handingOn : List Turn :=
  inTurn (acceptances.take 3)
    ++ .setClock secondLater
      :: .request (.transfer ⟨⟨0⟩⟩ seller.company buyer.company .trade)
      :: List.replicate 16 (.step 3)

end Sample

/-- The listing is vouched for by the row that was closed when its instrument was handed on. -/
theorem listings_vouched_closed
    : (Sample.opened.readings Sample.handingOn).IsChain (· ≤ ·)
      ∧ ((Sample.opened.run Sample.handingOn).market.store.ledger.rowsOf ⟨⟨0⟩⟩).map
          (fun row => (row.owner, row.relinquishedAt))
        = [(Sample.seller.company, some Sample.secondLater), (Sample.buyer.company, none)]
      ∧ (Sample.opened.run Sample.handingOn).market.store.listings.rows.length = 1
      ∧ (Sample.opened.run Sample.handingOn).market.store.Vouched := by
  have forward : (Sample.opened.readings Sample.handingOn).IsChain (· ≤ ·) := by
    have read : Sample.opened.readings Sample.handingOn
        = [Market.Sample.newYear, Market.Sample.newYear, Market.Sample.newYear,
          Sample.secondLater] := by cbv
    rw [read]
    decide
  refine ⟨forward, by cbv, by cbv, ?_⟩
  rw [Sample.opened] at forward ⊢
  exact listings_vouched _ _ _ _ _ forward

end Floor

end DebtMarket
