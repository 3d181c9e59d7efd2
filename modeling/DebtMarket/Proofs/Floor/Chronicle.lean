import DebtMarket.Proofs.Command.Telling
import DebtMarket.Proofs.Floor.Ownership
import DebtMarket.Proofs.Floor.Runs
import DebtMarket.Proofs.Market.Failure

/-! The chronicle of a market. Requests that come one after another are each carried out as a
whole, and a publisher that takes every event logs what they made known. This log tells the
truth: whoever learns of the market from nothing but the log knows the status of every record
and the owner of every instrument at any time, and has heard of each change once.
-/

namespace DebtMarket

/-- Changes that were made known, each with its time, in order. -/
abbrev Notices : Type :=
  List (Happening × Instant)

namespace Notices

/-- The changes without their times. -/
def happenings (notices : Notices) : List Happening :=
  notices.map Prod.fst

/-- What the changes tell about, once for each time that they do. -/
def subjects (notices : Notices) : List Subject :=
  notices.flatMap fun n => n.1.subjects

/-- The asks that the changes revised, once for each time that they did. -/
def revisions (notices : Notices) : List AskId :=
  notices.filterMap fun n => n.1.revises?

theorem happenings_append (earlier later : Notices)
    : happenings (earlier ++ later) = earlier.happenings ++ later.happenings :=
  List.map_append

theorem subjects_append (earlier later : Notices)
    : subjects (earlier ++ later) = earlier.subjects ++ later.subjects :=
  List.flatMap_append

theorem revisions_append (earlier later : Notices)
    : revisions (earlier ++ later) = earlier.revisions ++ later.revisions :=
  List.filterMap_append

theorem subjects_single (h : Happening) (time : Instant)
    : subjects [(h, time)] = h.subjects :=
  List.flatMap_singleton _ _

theorem revisions_single (h : Happening) (time : Instant)
    : revisions [(h, time)] = h.revises?.toList := by
  rw [revisions, List.filterMap_cons]
  cases h.revises? <;> rfl

/-- Every change tells about a subject or revises an ask. -/
theorem telling {n : Happening × Instant} {rest : Notices}
    (silent : subjects (n :: rest) = []) (unrevised : revisions (n :: rest) = [])
    : False := by
  obtain ⟨h, time⟩ := n
  cases h with
  | askRevised id listing => cases unrevised
  | _ => cases silent

end Notices

/-- What an event made known. -/
def Event.notice (e : Event) : Happening × Instant :=
  (e.happening, e.occurredAt)

namespace Store

/-- A store has changed just as some changes tell that were made known with their times:
they are the only changes of a status or an owner and the only revisions of asks, and each of
them is told once.
-/
structure Tells (s : Store) (notices : Notices) (s' : Store) : Prop where
  follows : s.picture.Follows notices.happenings
  picture : s'.picture = s.picture.afterAll notices.happenings
  recorded : ∀ n ∈ notices, n.1.Recorded n.2 s'
  once : notices.subjects.Nodup
  changes : ∀ x, x ∈ notices.subjects ↔ s'.picture x ≠ s.picture x
  revisesOnce : notices.revisions.Nodup
  revises : ∀ id, id ∈ notices.revisions ↔ s.Revises s' id

variable {s s₁ s' : Store} {earlier later notices : Notices}

/-- Nothing is told as long as no status, no owner and no ask changes. -/
theorem tells_nothing (picture : s'.picture = s.picture) (asks : s'.asks = s.asks)
    : s.Tells [] s' where
  follows := trivial
  picture := picture
  recorded := fun _ member => absurd member List.not_mem_nil
  once := List.nodup_nil
  changes := fun x => iff_of_false List.not_mem_nil fun differs => differs (by rw [picture])
  revisesOnce := List.nodup_nil
  revises := fun id => iff_of_false List.not_mem_nil (not_revises asks id)

/-- A single change that was made known is told. -/
theorem Told.tells {h : Happening} {time : Instant} (told : s.Told h time s')
    : s.Tells [(h, time)] s' where
  follows := ⟨told.agrees, trivial⟩
  picture := told.picture
  recorded := fun n member => by
    cases List.mem_singleton.1 member
    exact told.recorded
  once := by
    rw [Notices.subjects_single]
    exact told.agrees.once
  changes := fun x => by
    rw [Notices.subjects_single, told.picture]
    exact told.agrees.changes x
  revisesOnce := by
    rw [Notices.revisions_single]
    cases h.revises? with
    | none => exact List.nodup_nil
    | some id => exact List.nodup_singleton id
  revises := fun id => by
    rw [Notices.revisions_single, told.revises, Option.mem_toList]

/-- What is told of two changes one after the other is told of both together, if they are
about different subjects and the second one leaves all asks alone.
-/
theorem Tells.trans (h : s.Tells earlier s₁) (h' : s₁.Tells later s')
    (apart : ∀ x ∈ earlier.subjects, x ∉ later.subjects)
    (recorded : ∀ n ∈ earlier, n.1.Recorded n.2 s') (asks : s'.asks = s₁.asks)
    : s.Tells (earlier ++ later) s' := by
  have unrevised : later.revisions = [] :=
    List.eq_nil_iff_forall_not_mem.2 fun id member =>
      not_revises asks id ((h'.revises id).1 member)
  refine {
    follows := ?_
    picture := ?_
    recorded := fun n member => ?_
    once := ?_
    changes := fun x => ?_
    revisesOnce := ?_
    revises := fun id => ?_
  }
  · rw [Notices.happenings_append, Picture.follows_append, ← h.picture]
    exact ⟨h.follows, h'.follows⟩
  · rw [Notices.happenings_append, Picture.afterAll_append, ← h.picture]
    exact h'.picture
  · rcases List.mem_append.1 member with before | after
    · exact recorded n before
    · exact h'.recorded n after
  · rw [Notices.subjects_append]
    refine List.nodup_append.2 ⟨h.once, h'.once, ?_⟩
    rintro x before y after rfl
    exact apart x before after
  · rw [Notices.subjects_append, List.mem_append]
    by_cases before : x ∈ earlier.subjects
    · have still : s'.picture x = s₁.picture x :=
        not_not.1 (mt (h'.changes x).2 (apart x before))
      rw [still]
      exact iff_of_true (.inl before) ((h.changes x).1 before)
    · have still : s₁.picture x = s.picture x := not_not.1 (mt (h.changes x).2 before)
      rw [← still, ← h'.changes x]
      exact or_iff_right before
  · rw [Notices.revisions_append, unrevised, List.append_nil]
    exact h.revisesOnce
  · rw [Notices.revisions_append, unrevised, List.append_nil, h.revises, revises_congr asks]

/-- Where the store stays as it is, nothing is told. -/
theorem Tells.eq_nil (h : s.Tells notices s) : notices = [] := by
  cases notices with
  | nil => rfl
  | cons n rest =>
      have silent : Notices.subjects (n :: rest) = [] :=
        List.eq_nil_iff_forall_not_mem.2 fun x member => (h.changes x).1 member rfl
      have unrevised : Notices.revisions (n :: rest) = [] :=
        List.eq_nil_iff_forall_not_mem.2 fun id member =>
          not_revises rfl id ((h.revises id).1 member)
      exact (Notices.telling silent unrevised).elim

end Store

/-- What is made known by an unbounded outlet is taken and logged in order, by induction on
it.
-/
theorem Publisher.tell_unbounded {p : Publisher} (unbounded : p.outlet = .unbounded)
    (source : Nat → Uuid) (drawn : Nat) (notices : Notices)
    : (p.tell source drawn notices).outlet = .unbounded
      ∧ ∃ events : List Event,
          (p.tell source drawn notices).log = p.log ++ events.map (fun e => ⟨e, none⟩)
          ∧ events.map Event.notice = notices := by
  induction notices generalizing p drawn with
  | nil => exact ⟨unbounded, [], (List.append_nil _).symm, rfl⟩
  | cons n rest ih =>
      obtain ⟨h, time⟩ := n
      have taken : p.publish ⟨⟨source drawn⟩, time, h⟩
          = ⟨.unbounded, p.log ++ [⟨⟨⟨source drawn⟩, time, h⟩, none⟩]⟩ := by
        rw [publish, unbounded]
        rfl
      obtain ⟨outlet, events, logged, told⟩ := ih (p := p.publish ⟨⟨source drawn⟩, time, h⟩)
        (by rw [taken]) (drawn + 1)
      refine ⟨outlet, ⟨⟨source drawn⟩, time, h⟩ :: events, ?_, ?_⟩
      · rw [tell, logged, taken, List.map_cons, List.append_assoc]
        rfl
      · rw [List.map_cons, told, Event.notice]

namespace Command

/-- A command has failed and done nothing, or has succeeded in one of its ways. -/
def Ends (c : Command) (g : Given) (s : Store) (result : Except Failure Outcome)
    (notice : Option (Happening × Instant)) (s' : Store)
    : Prop :=
  (∃ failure, result = .error failure ∧ s' = s ∧ notice = none)
  ∨ ∃ outcome w, result = .ok outcome ∧ Performs g s c outcome w notice ∧ s.Wrote w s'

variable {c : Command} {g : Given} {s s' : Store} {result : Except Failure Outcome}
  {notice : Option (Happening × Instant)}

/-- What a command makes known tells what it has changed. -/
theorem Ends.tells (h : c.Ends g s result notice s') (sound : s.Sound)
    (chained : s.ledger.Chained)
    : s.Tells notice.toList s' := by
  rcases h with ⟨failure, -, rfl, rfl⟩ | ⟨outcome, w, -, performs, wrote⟩
  · exact Store.tells_nothing rfl rfl
  · cases notice with
    | none =>
        obtain ⟨picture, asks⟩ := performs.untold wrote
        exact Store.tells_nothing picture asks
    | some n => exact (performs.told wrote sound chained).tells

/-- An edit of a draft is not made known. -/
theorem Ends.silent {id : InstrumentId} {actor : Actor} {update : DraftUpdate}
    (h : (updateDraft id actor update).Ends g s result notice s')
    : notice = none := by
  rcases h with ⟨failure, -, -, rfl⟩ | ⟨outcome, w, -, performs, -⟩
  · rfl
  · cases performs <;> rfl

/-- A move of an instrument tells of its status only. -/
theorem Ends.moved {id : InstrumentId} {target : InstrumentStatus} {actor : Actor}
    (h : (moveInstrument id target actor).Ends g s result notice s')
    {n : Happening × Instant} (told : n ∈ notice)
    : ∃ before maturity, n.1 = .instrumentStatusChanged id before target maturity := by
  rcases h with ⟨failure, -, -, rfl⟩ | ⟨outcome, w, -, performs, -⟩
  · cases told
  · cases performs with
    | keepInstrument => cases told
    | moveInstrument =>
        cases told
        exact ⟨_, _, rfl⟩

/-- An issuance tells of the owner of its instrument only, and leaves instruments and asks
alone.
-/
theorem Ends.issued {id : InstrumentId} {owner : CompanyId}
    (h : (recordIssuance id owner).Ends g s result notice s')
    : s'.instruments = s.instruments ∧ s'.asks = s.asks
      ∧ ∀ n ∈ notice, n.1.subjects = [.owner id] := by
  rcases h with ⟨failure, -, rfl, rfl⟩ | ⟨outcome, w, -, performs, wrote⟩
  · exact ⟨rfl, rfl, fun n told => by cases told⟩
  · cases performs with
    | recordIssuance unowned =>
        obtain ⟨-⟩ := Store.write_takes wrote
        refine ⟨rfl, rfl, fun n told => ?_⟩
        cases told
        rfl

end Command

namespace Market

/-- A market on which nobody claims a lock and every event is taken, as it is left by
whatever tasks were on its floor before.
-/
structure Ready (m : Market) : Prop where
  free : m.locks.Accounts []
  consistent : ∃ tasks, Floor.Consistent ⟨m, tasks⟩
  chained : m.store.ledger.Chained
  unbounded : m.publisher.outlet = .unbounded

theorem ready_start (clock : Instant) (threshold : Nat) (source : IdKind → Nat → Uuid)
    : (start clock threshold .unbounded source).Ready where
  free := (Floor.consistent_start clock threshold .unbounded source).locked.accounts
  consistent := ⟨[], Floor.consistent_start clock threshold .unbounded source⟩
  chained := Ledger.chained_empty
  unbounded := rfl

variable {m : Market}

theorem Ready.sound (ready : m.Ready) : m.store.Sound := by
  obtain ⟨tasks, consistent⟩ := ready.consistent
  exact consistent.sound

theorem Ready.setClock (ready : m.Ready) (now : Instant) : (m.setClock now).Ready := by
  obtain ⟨tasks, consistent⟩ := ready.consistent
  exact ⟨ready.free, ⟨tasks, consistent.after (.setClock now)⟩, ready.chained, ready.unbounded⟩

/-- The opening of a request comes to an end, and makes known what it did. -/
theorem Ready.opening (ready : m.Ready) (c : Command)
    : ∃ result m' notice, run c.opening.operation [] m = (.finished result [], m')
        ∧ m'.Ready
        ∧ m'.publisher = m.publisher.tell (m.source .event) (m.drawn .event) notice.toList
        ∧ c.opening.Ends m.given m.store result notice m'.store := by
  obtain ⟨result, m', ended, free⟩ : ∃ result m',
      run c.opening.operation [] m = (.finished result [], m') ∧ m'.locks.Accounts [] :=
    run_ends c.orderly_opening rfl ready.free
  obtain ⟨tasks, consistent⟩ := ready.consistent
  obtain ⟨n, t, ran, -, -⟩ := Floor.run_begin ⟨m, tasks⟩ c
  have consistent := consistent.run (.request c :: List.replicate n (.step tasks.length))
  rw [ran, begin, ended] at consistent
  have undergone := run_opening c ended
  have chained : m'.store.ledger.Chained := by
    rcases c.opening_store m.given m.store with same | yields
    · rw [undergone.store] at same
      rw [same]
      exact ready.chained
    · rw [undergone.store] at yields
      exact (yields.store.chained ready.chained).1
  have left (notices : Notices)
      (told : m'.publisher = m.publisher.tell (m.source .event) (m.drawn .event) notices)
      : m'.Ready := {
    free
    consistent := ⟨_, consistent⟩
    chained
    unbounded := by
      rw [told]
      exact (Publisher.tell_unbounded ready.unbounded _ _ _).1
  }
  have result' := undergone.result
  have store := undergone.store
  have publisher := undergone.publisher
  rcases c.effect_opening m.given m.store with
    ⟨failure, idle⟩ | ⟨outcome, w, notice, s', performs, wrote, effect⟩
  · rw [idle] at result' store publisher
    refine ⟨result, m', none, ended, left _ publisher, publisher, .inl ⟨failure, ?_⟩⟩
    exact ⟨result'.symm, store.symm, rfl⟩
  · rw [effect] at result' store publisher
    refine ⟨result, m', notice, ended, left _ publisher, publisher, .inr ⟨outcome, w, ?_⟩⟩
    exact ⟨result'.symm, performs, store ▸ wrote⟩

/-- A request ends, and what it made known tells what it has changed: what is told of its
opening, and of the issuance that follows if it made an instrument active.
-/
theorem Ready.begin (ready : m.Ready) (c : Command)
    : ∃ result m', ∃ events : List Event,
        m.begin c.operation = (.finished result [], m')
        ∧ m'.Ready
        ∧ m'.publisher.log = m.publisher.log ++ events.map (fun e => ⟨e, none⟩)
        ∧ m.store.Tells (events.map Event.notice) m'.store
        ∧ ∀ id actor update, c = .updateDraft id actor update → events = [] := by
  obtain ⟨result, m₁, notice, ended, ready₁, publisher, ends⟩ := ready.opening c
  have tells := ends.tells ready.sound ready.chained
  obtain ⟨-, events, logged, told⟩ := Publisher.tell_unbounded ready.unbounded
    (m.source .event) (m.drawn .event) notice.toList
  rw [← publisher] at logged
  have silent (id : InstrumentId) (actor : Actor) (update : DraftUpdate)
      (edit : c = .updateDraft id actor update) : events = [] := by
    subst edit
    rw [ends.silent] at told
    exact List.map_eq_nil_iff.1 told
  rw [Market.begin, Command.operation_eq, run_bind, ended]
  cases result with
  | error failure => exact ⟨.error failure, m₁, events, rfl, ready₁, logged, told ▸ tells, silent⟩
  | ok outcome =>
      cases sequel : c.sequel? outcome with
      | none =>
          simp only [sequel]
          exact ⟨.ok outcome, m₁, events, rfl, ready₁, logged, told ▸ tells, silent⟩
      | some next =>
          obtain ⟨id, target, actor, t, rfl, rfl, activated, rfl⟩ :=
            Command.sequel?_eq_some sequel
          obtain ⟨result, m₂, notice', ended', ready₂, publisher', ends'⟩ :=
            ready₁.opening (.recordIssuance id t.instrument.issuer)
          obtain ⟨-, events', logged', told'⟩ := Publisher.tell_unbounded ready₁.unbounded
            (m₁.source .event) (m₁.drawn .event) notice'.toList
          rw [← publisher'] at logged'
          obtain ⟨instruments, asks, owner⟩ := Command.Ends.issued ends'
          have tells' := ends'.tells ready₁.sound ready₁.chained
          have apart (x : Subject) (first : x ∈ Notices.subjects notice.toList)
              : x ∉ Notices.subjects notice'.toList := by
            obtain ⟨n, made, about⟩ := List.mem_flatMap.1 first
            obtain ⟨before, maturity, same⟩ := Command.Ends.moved ends (Option.mem_toList.1 made)
            rw [same] at about
            cases List.mem_singleton.1 about
            intro second
            obtain ⟨n', made', about'⟩ := List.mem_flatMap.1 second
            rw [owner n' (Option.mem_toList.1 made')] at about'
            cases List.mem_singleton.1 about'
          have recorded (n : Happening × Instant) (made : n ∈ notice.toList)
              : n.1.Recorded n.2 m₂.store := by
            have before := tells.recorded n made
            obtain ⟨_, maturity, same⟩ := Command.Ends.moved ends (Option.mem_toList.1 made)
            rw [same] at before ⊢
            rw [Happening.Recorded, instruments]
            exact before
          have both := tells.trans tells' apart recorded asks
          rw [← told, ← told', ← List.map_append] at both
          have logged : m₂.publisher.log
              = m.publisher.log ++ (events ++ events').map (fun e => ⟨e, none⟩) := by
            rw [logged', logged, List.map_append, List.append_assoc]
          have ended' : run (Command.recordIssuance id t.instrument.issuer).operation [] m₁
              = (.finished result [], m₂) := ended'
          have edit (other : InstrumentId) (actor' : Actor) (update : DraftUpdate)
              (same : Command.transitionInstrument id target actor
                = .updateDraft other actor' update)
              : events ++ events' = [] := by
            cases same
          simp only [sequel, run_bind, ended']
          cases result with
          | error failure => exact ⟨_, m₂, events ++ events', rfl, ready₂, logged, both, edit⟩
          | ok row => exact ⟨_, m₂, events ++ events', rfl, ready₂, logged, both, edit⟩

-----------------------------------------------------------------------------------------
-- The log of a whole session
-----------------------------------------------------------------------------------------

/-- The market after requests that came one after another, each at its own time. -/
def session (m : Market) (jobs : List (Instant × Command)) : Market :=
  jobs.foldl (fun m job => ((m.setClock job.1).begin job.2.operation).2) m

/-- All changes that were made known, in order. -/
def told (m : Market) : List Happening :=
  m.publisher.log.map fun publication => publication.event.happening

/-- A market whose log tells the truth: every event was taken and agrees with the picture
that those before it draw, and all together draw the picture of the store.
-/
structure Chronicled (m : Market) : Prop where
  ready : m.Ready
  taken : ∀ publication ∈ m.publisher.log, publication.refusal = none
  follows : Picture.empty.Follows m.told
  picture : m.store.picture = Picture.empty.afterAll m.told

/-- The log still tells the truth after one more request. -/
theorem Chronicled.begin (h : m.Chronicled) (now : Instant) (c : Command)
    : ((m.setClock now).begin c.operation).2.Chronicled := by
  obtain ⟨result, m', events, ended, ready, logged, tells, -⟩ := (h.ready.setClock now).begin c
  have grown : m'.told = m.told ++ Notices.happenings (events.map Event.notice) := by
    rw [told, logged, List.map_append, List.map_map, Notices.happenings, List.map_map]
    rfl
  have follows := tells.follows
  have picture := tells.picture
  have before : (m.setClock now).store.picture = Picture.empty.afterAll m.told := h.picture
  rw [before] at follows picture
  rw [ended]
  refine ⟨ready, fun publication member => ?_, ?_, ?_⟩
  · rw [logged] at member
    rcases List.mem_append.1 member with old | new
    · exact h.taken publication old
    · obtain ⟨e, -, rfl⟩ := List.mem_map.1 new
      rfl
  · rw [grown, Picture.follows_append]
    exact ⟨h.follows, follows⟩
  · rw [grown, Picture.afterAll_append]
    exact picture

/-- The log tells the truth after every session, by induction on its requests. -/
theorem Chronicled.session (h : m.Chronicled) (jobs : List (Instant × Command))
    : (m.session jobs).Chronicled := by
  induction jobs generalizing m with
  | nil => exact h
  | cons job rest ih => exact ih (h.begin job.1 job.2)

/-- The log of a session on an empty market tells the truth: folding it yields the status of
every record and the owner of every instrument, and each of its events agrees with the fold
of those before it. Whatever request comes next, it ends, and what is appended to the log
tells each of its changes once and tells of nothing else; nothing is appended if the store
stays as it is, or only a draft is edited.
-/
theorem session_told (clock : Instant) (threshold : Nat) (source : IdKind → Nat → Uuid)
    (jobs : List (Instant × Command))
    : let m := (start clock threshold .unbounded source).session jobs
      (∀ publication ∈ m.publisher.log, publication.refusal = none)
      ∧ Picture.empty.Follows m.told
      ∧ m.store.picture = Picture.empty.afterAll m.told
      ∧ ∀ (now : Instant) (c : Command), ∃ result m', ∃ events : List Event,
          (m.setClock now).begin c.operation = (.finished result [], m')
          ∧ m'.publisher.log = m.publisher.log ++ events.map (fun e => ⟨e, none⟩)
          ∧ m.store.Tells (events.map Event.notice) m'.store
          ∧ (m'.store = m.store → events = [])
          ∧ ∀ id actor update, c = .updateDraft id actor update → events = [] := by
  intro m
  have initial : (start clock threshold .unbounded source).Chronicled := {
    ready := ready_start clock threshold source
    taken := fun _ member => absurd member List.not_mem_nil
    follows := trivial
    picture := Store.picture_empty
  }
  have chronicled : m.Chronicled := initial.session jobs
  refine ⟨chronicled.taken, chronicled.follows, chronicled.picture, fun now c => ?_⟩
  obtain ⟨result, m', events, ended, -, logged, tells, silent⟩ :=
    (chronicled.ready.setClock now).begin c
  refine ⟨result, m', events, ended, logged, tells, fun same => ?_, silent⟩
  rw [same] at tells
  exact List.map_eq_nil_iff.1 tells.eq_nil

end Market

end DebtMarket
