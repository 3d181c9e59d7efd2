import DebtMarket.Market
import DebtMarket.Proofs.Market.Run
import DebtMarket.Proofs.Store.Entities

/-! Writers without locks. Several writers read records whenever they like, change a copy once
and try to store it, in any order. Versions alone guard the store: a write that is accepted
replaces just what its writer had read, since whatever was stored in between has a greater
version than every copy that was read before.
-/

namespace DebtMarket

namespace Entity

/-- One change of a copy of a record: a move, an edit of terms, an answer or the mark of
deletion, each of which raises the version.
-/
inductive Revised : Entity → Entity → Prop
  | moveInstrument {x target now} : Revised (.instrument x) (.instrument (x.moveTo target now))
  | editInstrument {x x' update now} (applied : Instrument.applyUpdate x update now = .ok x')
    : Revised (.instrument x) (.instrument x')
  | deleteInstrument {x : Instrument} {now} (live : x.revision.isDeleted = false)
    : Revised (.instrument x) (.instrument (x.tombstone now))
  | moveListing {x target now} : Revised (.listing x) (.listing (x.moveTo target now))
  | deleteListing {x : Listing} {now} (live : x.revision.isDeleted = false)
    : Revised (.listing x) (.listing (x.tombstone now))
  | moveBid {b target now} : Revised (.bid b) (.bid (b.moveTo target now))
  | answerBid {b b' answer now} (answered : Bid.resolve b answer now = .ok b')
    : Revised (.bid b) (.bid b')
  | deleteBid {b : Bid} {now} (live : b.revision.isDeleted = false)
    : Revised (.bid b) (.bid (b.tombstone now))
  | moveAsk {a target now} : Revised (.ask a) (.ask (a.moveTo target now))
  | reviseAsk {a a' update now} (applied : Ask.applyUpdate a update now = .ok a')
    : Revised (.ask a) (.ask a')
  | deleteAsk {a : Ask} {now} (live : a.revision.isDeleted = false)
    : Revised (.ask a) (.ask (a.tombstone now))

variable {e e' : Entity}

/-- A change leaves the record under its identifier and raises its version. -/
theorem Revised.next (h : e.Revised e')
    : e'.id = e.id ∧ e'.revision.version = Revision.nextVersion e.revision.version := by
  have deleted {r : Revision} {now : Instant} (live : r.isDeleted = false)
      : (r.tombstone now).version = Revision.nextVersion r.version := by
    rw [Revision.tombstone, live]
    rfl
  cases h with
  | moveInstrument | moveListing | moveBid | moveAsk => exact ⟨rfl, rfl⟩
  | deleteInstrument live | deleteListing live | deleteBid live | deleteAsk live =>
      exact ⟨rfl, deleted live⟩
  | editInstrument applied =>
      obtain ⟨same, touched⟩ := Instrument.applyUpdate_touch applied
      exact ⟨congrArg EntityId.instrument same, congrArg Revision.version touched⟩
  | answerBid answered =>
      obtain ⟨-, rfl⟩ := Bid.resolve_eq_ok.1 answered
      exact ⟨rfl, rfl⟩
  | reviseAsk applied =>
      obtain ⟨same, -, touched⟩ := Ask.applyUpdate_touch applied
      exact ⟨congrArg EntityId.ask same, congrArg Revision.version touched⟩

/-- A changed copy is at most one version ahead: none at all at the greatest version. -/
theorem Revised.version_le (h : e.Revised e') : e'.version ≤ e.version + 1 := by
  have raised := Revision.toNat_nextVersion e.revision.version
  simp only [version, h.next.2]
  omega

end Entity

/-- A market whose store is written to without locks, and what each writer has read so far. -/
structure Writers where
  market : Market
  copies : Nat → List Entity

namespace Writers

/-- What a writer does next. -/
inductive Act where
  | inquire (writer : Nat) (q : Inquiry)
  /-- Reads a record, deleted or not. -/
  | fetch (writer : Nat) (id : EntityId)
  | write (writer : Nat) (w : Write)
deriving DecidableEq, Repr

/-- Nobody has read anything yet. -/
def start (m : Market) : Writers :=
  ⟨m, fun _ => []⟩

/-- The writers after one of them read some records. -/
def reading (ws : Writers) (writer : Nat) (records : List Entity) : Writers :=
  {
    ws with
    copies := fun other =>
      if other = writer then records ++ ws.copies other else ws.copies other
  }

/-- The writers after one of them did something. -/
def after (ws : Writers) : Act → Writers
  | .inquire writer q => ws.reading writer (ws.market.store.inquire q)
  | .fetch writer id => ws.reading writer (ws.market.store.kept? id).toList
  | .write _ w => { ws with market := (ws.market.write w).2 }

/-- The writers after one thing was done after another. -/
def run (ws : Writers) (acts : List Act) : Writers :=
  acts.foldl after ws

/-- What a writer may try to store: different records, each of which is a copy that it changed
once or a new record under an identifier that is not in use.
-/
structure Drafted (copies : List Entity) (s : Store) (w : Write) : Prop where
  distinct : (w.entities.map Entity.id).Nodup
  origin
    : ∀ e ∈ w.entities, (∃ copy ∈ copies, copy.Revised e)
      ∨ e.version = 1 ∧ s.kept? e.id = none

/-- Writers read what they like, and try to store only what they drafted. -/
def Allows (ws : Writers) : Act → Prop
  | .write writer w => Drafted (ws.copies writer) ws.market.store w
  | .inquire .. | .fetch .. => True

/-- Writers that do one thing after another, all of it allowed. -/
def Honest (ws : Writers) : List Act → Prop
  | [] => True
  | act :: rest => ws.Allows act ∧ (ws.after act).Honest rest

/-- What an accepted write does: whatever it replaces is what the writer had read, the version
rises by one, new records have the first version, and no other record changes.
-/
structure Replaces (copies : List Entity) (w : Write) (s s' : Store) : Prop where
  written : ∀ e ∈ w.entities, s'.kept? e.id = some e
  replaced
    : ∀ e ∈ w.entities, ∀ old, s.kept? e.id = some old
      → old ∈ copies ∧ old.Revised e ∧ (∀ copy ∈ copies, copy.Revised e → copy = old)
        ∧ e.version = old.version + 1
  created : ∀ e ∈ w.entities, s.kept? e.id = none → e.version = 1
  others : ∀ id, (∀ e ∈ w.entities, e.id ≠ id) → s'.kept? id = s.kept? id

variable {ws : Writers} {s s' : Store} {w : Write} {copy : Entity}

-----------------------------------------------------------------------------------------
-- What a copy tells about the store
-----------------------------------------------------------------------------------------

/-- The record of a copy is still stored, and differs from it only if its version is greater.
-/
def Recalls (s : Store) (copy : Entity) : Prop :=
  ∃ now, s.kept? copy.id = some now ∧ copy.version ≤ now.version
    ∧ (copy.version = now.version → copy = now)

/-- What was just read is what is stored. -/
theorem recalls_of_kept (found : s.kept? copy.id = some copy) : Recalls s copy :=
  ⟨copy, found, Nat.le_refl _, fun _ => rfl⟩

/-- Whatever is written over the record of a copy has a greater version. -/
theorem Recalls.takes (h : Recalls s copy) (takes : s.Takes w s')
    (distinct : (w.entities.map Entity.id).Nodup)
    : Recalls s' copy := by
  obtain ⟨now, found, atMost, same⟩ := h
  by_cases replaced : ∃ e ∈ w.entities, e.id = copy.id
  · obtain ⟨e, member, id⟩ := replaced
    have newer := takes.newer member (id ▸ found)
    refine ⟨e, id ▸ takes.written distinct member, by omega, fun equal => by omega⟩
  · refine ⟨now, ?_, atMost, same⟩
    rw [takes.unwritten fun e member id => replaced ⟨e, member, id⟩]
    exact found

/-- A changed copy that the store takes follows the very record that was copied: that record
is no older than the copy, and has to be older than what replaces it.
-/
theorem Recalls.replaced {e : Entity} (h : Recalls s copy) (revised : copy.Revised e)
    (takes : s.Takes w s') (member : e ∈ w.entities)
    : s.kept? e.id = some copy ∧ e.version = copy.version + 1 := by
  obtain ⟨now, found, atMost, same⟩ := h
  have found : s.kept? e.id = some now := revised.next.1 ▸ found
  have newer := takes.newer member found
  have ahead := revised.version_le
  obtain rfl := same (by omega)
  exact ⟨found, by omega⟩

-----------------------------------------------------------------------------------------
-- What holds while writers go on
-----------------------------------------------------------------------------------------

/-- What the writers rely on: no two records share an identifier, and all copies are recalled.
-/
structure Sound (ws : Writers) : Prop where
  keyed : ws.market.store.Keyed
  recalled : ∀ writer, ∀ copy ∈ ws.copies writer, Recalls ws.market.store copy

theorem sound_start {m : Market} (keyed : m.store.Keyed) : (start m).Sound :=
  ⟨keyed, fun _ _ member => absurd member List.not_mem_nil⟩

theorem Sound.reading (h : ws.Sound) (writer : Nat) {records : List Entity}
    (found : ∀ e ∈ records, ws.market.store.kept? e.id = some e)
    : (ws.reading writer records).Sound := by
  refine ⟨h.keyed, fun other copy member => ?_⟩
  simp only [Writers.reading] at member
  split at member
  · rcases List.mem_append.1 member with new | old
    · exact recalls_of_kept (found copy new)
    · exact h.recalled other copy old
  · exact h.recalled other copy member

/-- Whatever a writer does that is allowed, all copies stay recalled: by cases on it. -/
theorem Sound.after (h : ws.Sound) {act : Act} (allowed : ws.Allows act)
    : (ws.after act).Sound := by
  cases act with
  | inquire writer q => exact h.reading writer fun e => h.keyed.kept?_of_inquire
  | fetch writer id =>
      refine h.reading writer fun e member => ?_
      exact Store.kept?_id (Option.mem_toList.1 member)
  | write writer w =>
      simp only [Writers.after, Market.write_eq]
      cases accepted : ws.market.store.write w with
      | error e => exact h
      | ok s' =>
          have takes := Store.write_takes accepted
          refine ⟨takes.keyed h.keyed, fun other copy member => ?_⟩
          exact (h.recalled other copy member).takes takes allowed.distinct

/-- Whatever writers do that is allowed, all copies stay recalled: by induction on it. -/
theorem Sound.run {acts : List Act} (h : ws.Sound) (honest : ws.Honest acts)
    : (ws.run acts).Sound := by
  induction acts generalizing ws with
  | nil => exact h
  | cons act rest ih => exact ih (h.after honest.1) honest.2

/-- What is done last is allowed then, by induction on what is done before. -/
theorem Honest.last {acts : List Act} {act : Act} (h : ws.Honest (acts ++ [act]))
    : ws.Honest acts ∧ (ws.run acts).Allows act := by
  induction acts generalizing ws with
  | nil => exact ⟨trivial, h.1⟩
  | cons first rest ih =>
      obtain ⟨honest, allowed⟩ := ih h.2
      exact ⟨⟨h.1, honest⟩, allowed⟩

/-- A write that the store takes replaces what its writer had read. -/
theorem Sound.replaces (h : ws.Sound) {writer : Nat}
    (drafted : Drafted (ws.copies writer) ws.market.store w)
    (takes : ws.market.store.Takes w s')
    : Replaces (ws.copies writer) w ws.market.store s' where
  written := fun e member => takes.written drafted.distinct member
  replaced := by
    intro e member old found
    rcases drafted.origin e member with ⟨copy, read, revised⟩ | ⟨-, absent⟩
    · have follows {copy : Entity} (read : copy ∈ ws.copies writer) (revised : copy.Revised e)
          : copy = old ∧ e.version = copy.version + 1 := by
        have recalled := h.recalled writer copy read
        obtain ⟨stored, next⟩ := recalled.replaced revised takes member
        exact ⟨Option.some.inj (stored.symm.trans found), next⟩
      obtain ⟨rfl, next⟩ := follows read revised
      exact ⟨read, revised, fun other read revised => (follows read revised).1, next⟩
    · cases absent.symm.trans found
  created := by
    intro e member absent
    rcases drafted.origin e member with ⟨copy, read, revised⟩ | ⟨first, -⟩
    · obtain ⟨stored, -⟩ := (h.recalled writer copy read).replaced revised takes member
      cases absent.symm.trans stored
    · exact first
  others := fun id => takes.unwritten

/-- No update is lost: however writers interleave, a write that is accepted replaces just what
its writer had read, and one that is refused leaves the market as it is.
-/
theorem no_lost_update {m : Market} (keyed : m.store.Keyed) {acts : List Act} {writer : Nat}
    {w : Write} (honest : (start m).Honest (acts ++ [.write writer w]))
    : match ((start m).run acts).market.write w with
      | (.ok (), later) =>
          Replaces (((start m).run acts).copies writer) w
            ((start m).run acts).market.store later.store
      | (.error _, later) => later = ((start m).run acts).market := by
  obtain ⟨before, drafted⟩ := honest.last
  have sound := (sound_start keyed).run before
  rw [Market.write_eq]
  cases accepted : ((start m).run acts).market.store.write w with
  | error e => rfl
  | ok s' => exact sound.replaces drafted (Store.write_takes accepted)

namespace Sample

open Market.Sample

/-- A pending bid that may still change once. -/
def bid : Bid :=
  {
    id := ⟨⟨0⟩⟩,
    listing := ⟨⟨0⟩⟩,
    bidder := ⟨⟨2⟩⟩,
    bidderUser := ⟨⟨2⟩⟩,
    amount := one,
    currency := euro,
    validUntil := none,
    status := .pending,
    revision := { Revision.first newYear with version := Revision.maxVersion - 1 }
  }

/-- A market with the bid. -/
def market : Market :=
  {
    Market.start newYear 0 .unbounded (fun _ n => ⟨BitVec.ofNat 128 n⟩) with
    store := { Store.empty with bids := ⟨[bid]⟩ }
  }

/-- The first writer withdraws its copy of the bid. -/
def withdrawal : Write :=
  .bid (bid.moveTo .withdrawn newYear)

/-- The second one suspends its copy. -/
def suspension : Write :=
  .bids [bid.moveTo .suspended newYear]

/-- Two writers read the bid. -/
def reads : List Act :=
  [.fetch 0 (.bid bid.id), .inquire 1 (.stored (.bid bid.id))]

/-- The first of them goes on to write. -/
def contest : List Act :=
  reads ++ [.write 0 withdrawal]

theorem market_keyed : market.store.Keyed :=
  ⟨List.nodup_nil, List.nodup_nil, List.nodup_singleton _, List.nodup_nil⟩

/-- A writer that has read the bid may try to store its one change of it. -/
theorem drafted {s : Store} {target : BidStatus} {w : Write}
    (stores : w.entities = [.bid (bid.moveTo target newYear)])
    : Drafted [.bid bid] s w := by
  constructor
  · rw [stores]
    exact List.nodup_singleton _
  · intro e member
    rw [stores, List.mem_singleton] at member
    subst member
    exact .inl ⟨.bid bid, List.mem_singleton_self _, .moveBid⟩

end Sample

/-- Of two changes of the same bid the first is stored, at the greatest version of all, and the
second is refused.
-/
theorem no_lost_update_race
    : (∃ later, Sample.market.write Sample.withdrawal = (.ok (), later)
        ∧ Replaces [.bid Sample.bid] Sample.withdrawal Sample.market.store later.store)
      ∧ ∃ e, ((start Sample.market).run Sample.contest).market.write Sample.suspension
          = (.error e, ((start Sample.market).run Sample.contest).market) := by
  have first : (start Sample.market).Honest (Sample.reads ++ [.write 0 Sample.withdrawal]) :=
    ⟨trivial, trivial, Sample.drafted rfl, trivial⟩
  have second : (start Sample.market).Honest
      (Sample.contest ++ [.write 1 Sample.suspension]) :=
    ⟨trivial, trivial, Sample.drafted rfl, Sample.drafted rfl, trivial⟩
  have wins := no_lost_update Sample.market_keyed first
  have loses := no_lost_update Sample.market_keyed second
  exact ⟨⟨_, rfl, wins⟩, _, Prod.ext rfl loses⟩

end Writers

end DebtMarket
