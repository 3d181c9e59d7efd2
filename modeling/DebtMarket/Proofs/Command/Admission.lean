import DebtMarket.Proofs.Command.Performs
import DebtMarket.Proofs.Ownership.Chain
import DebtMarket.Proofs.Record
import DebtMarket.Proofs.Store.Access

/-! Admission of writes. What a command writes follows the stored records by one version, or
is new under an identifier that the command has drawn; and it found no other owner and no
other open listing where there must be one only. So the store it was made for accepts the
write, as long as versions may grow and the identifier is not known yet; and from then on
the identifier is known.
-/

namespace DebtMarket

namespace Table

variable {α : Type} {kind : IdKind} [Stored α kind] {t : Table α} {a b : α}

/-- Every version may still grow by one. -/
def Growing (t : Table α) : Prop :=
  ∀ a ∈ t.rows, version a < Revision.maxVersion.toNat

/-- If versions may still grow after newer records were put in, they could before. -/
theorem Growing.before (records : List α) (h : (records.foldl put t).Growing)
    (sound : t.Sound)
    (newer : ∀ a ∈ records, ∀ b, t.find? (Stored.id a) = some b → version b < version a)
    : t.Growing := by
  intro b member
  obtain ⟨c, stored, rfl | ⟨mine, same⟩⟩ := exists_puts member
  · exact h c stored
  · have found := sound.find?_of_mem member
    rw [← same] at found
    exact Nat.lt_trans (newer c mine b found) (h c stored)

/-- The numbers of all records, deleted or not. -/
def uuids (t : Table α) : List Uuid :=
  (t.rows.map Stored.id).map Id.uuid

/-- A record that was changed once since it was stored is newer than the stored one. -/
theorem Growing.newer (h : t.Growing) {now : Instant}
    (stored : t.get? (Stored.id b) = some b) (same : Stored.id a = Stored.id b)
    (touched : Stored.revision a = (Stored.revision b).touch now)
    : ∀ c, t.find? (Stored.id a) = some c → version c < version a := by
  intro c found
  rw [same, (get?_eq_some.1 stored).1] at found
  cases found
  have below := h b (find?_mem (get?_eq_some.1 stored).1)
  have grown := Revision.toNat_nextVersion (Stored.revision b).version
  have after : version a = (Revision.nextVersion (Stored.revision b).version).toNat := by
    simp only [version, touched, Revision.touch]
  have greatest : Revision.maxVersion.toNat = 18446744073709551615 := rfl
  rw [after, grown]
  simp only [version] at below ⊢
  omega

/-- A record of an unknown number is not found. -/
theorem find?_of_unknown {uuid : Uuid} (unknown : uuid ∉ t.uuids)
    : t.find? (⟨uuid⟩ : Id kind) = none := by
  rw [find?_eq_none]
  intro a member same
  apply unknown
  rw [uuids, List.map_map]
  exact List.mem_map.2 ⟨a, member, congrArg Id.uuid same⟩

/-- A record of an unknown number is newer than any stored one, as there is none. -/
theorem newer_of_unknown {id : Id kind} (unknown : id.uuid ∉ t.uuids)
    (same : Stored.id a = id)
    : ∀ c, t.find? (Stored.id a) = some c → version c < version a := by
  intro c found
  rw [same, find?_of_unknown unknown] at found
  cases found

/-- A stored record that is changed keeps its number. -/
theorem uuids_put (stored : t.get? (Stored.id b) = some b) (same : Stored.id a = Stored.id b)
    : (t.put a).uuids = t.uuids := by
  have found : t.find? (Stored.id a) = some b := by
    rw [same]
    exact (get?_eq_some.1 stored).1
  rw [uuids, put_ids_of_some found, uuids]

/-- A new record adds its number. -/
theorem uuids_put_new (sound : t.Sound) {now : Instant}
    (new : Stored.revision a = Revision.first now)
    (newer : ∀ b, t.find? (Stored.id a) = some b → version b < version a)
    : (t.put a).uuids = t.uuids ++ [(Stored.id a).uuid] := by
  rw [uuids, put_ids_of_none (sound.find?_of_first new newer), List.map_append, uuids]
  rfl

end Table

namespace Ledger

variable {l l' : Ledger} {row closing opened : Ownership}

/-- The numbers of all rows. -/
def uuids (l : Ledger) : List Uuid :=
  (l.rows.map Ownership.id).map Id.uuid

/-- An instrument has no row of an unknown number. -/
theorem hasRow_of_unknown {id : OwnershipId} (unknown : id.uuid ∉ l.uuids)
    (instrument : InstrumentId)
    : l.hasRow instrument id = false := by
  rw [hasRow_eq_false]
  intro row member same
  apply unknown
  rw [uuids, List.map_map]
  exact List.mem_map.2 ⟨row, (mem_rowsOf.1 member).1, congrArg Id.uuid same⟩

theorem uuids_insert (h : l.insert row = .ok l') : l'.uuids = l.uuids ++ [row.id.uuid] := by
  obtain ⟨-, -, rfl⟩ := insert_eq_ok.1 h
  simp [uuids]

/-- A transfer adds the number of the row that it opens. -/
theorem uuids_transfer (h : l.transfer closing opened = .ok l')
    : l'.uuids = l.uuids ++ [opened.id.uuid] := by
  obtain ⟨-, -, -, -, -, rfl⟩ := transfer_eq_ok.1 h
  have ids : (l.replace closing).map Ownership.id = l.rows.map Ownership.id := by
    rw [replace, List.map_map]
    refine List.map_congr_left fun row _ => ?_
    simp only [Function.comp, Bool.and_eq_true, beq_iff_eq]
    split
    · next same => exact same.2.symm
    · rfl
  simp [uuids, ids]

end Ledger

/-- The kind of thing that a write stores. -/
def Write.kind : Write → IdKind
  | instrument _ => .instrument
  | listing _ => .listing
  | bid _ | bids _ => .bid
  | ask _ => .ask
  | row _ | transfer .. => .ownership

namespace Store

/-- All versions may still grow by one. -/
structure Growing (s : Store) : Prop where
  instruments : s.instruments.Growing
  listings : s.listings.Growing
  bids : s.bids.Growing
  asks : s.asks.Growing

instance (s : Store) : Decidable s.Growing :=
  decidable_of_iff
    ((∀ x ∈ s.instruments.rows, Table.version x < Revision.maxVersion.toNat)
      ∧ (∀ x ∈ s.listings.rows, Table.version x < Revision.maxVersion.toNat)
      ∧ (∀ b ∈ s.bids.rows, Table.version b < Revision.maxVersion.toNat)
      ∧ ∀ a ∈ s.asks.rows, Table.version a < Revision.maxVersion.toNat)
    ⟨fun ⟨instruments, listings, bids, asks⟩ => ⟨instruments, listings, bids, asks⟩,
      fun h => ⟨h.instruments, h.listings, h.bids, h.asks⟩⟩

/-- If versions may still grow after a write, they could before it, as no write lowers one.
-/
theorem Takes.growing {s s' : Store} {w : Write} (h : s.Takes w s') (sound : s.Sound)
    (later : s'.Growing)
    : s.Growing := by
  obtain ⟨instruments, listings, bids, asks⟩ := later
  cases h with
  | @instrument x newer =>
      have before := instruments.before [x] sound.instruments (by simpa using newer)
      exact ⟨before, listings, bids, asks⟩
  | @listing x newer alone =>
      have before := listings.before [x] sound.listings (by simpa using newer)
      exact ⟨instruments, before, bids, asks⟩
  | @bid b newer =>
      have before := bids.before [b] sound.bids (by simpa using newer)
      exact ⟨instruments, listings, before, asks⟩
  | bids newer => exact ⟨instruments, listings, bids.before _ sound.bids newer, asks⟩
  | @ask a newer =>
      have before := asks.before [a] sound.asks (by simpa using newer)
      exact ⟨instruments, listings, bids, before⟩
  | row inserted => exact ⟨instruments, listings, bids, asks⟩
  | transfer transferred => exact ⟨instruments, listings, bids, asks⟩

/-- The numbers of the records of a kind, deleted or not. -/
def uuids (s : Store) : IdKind → List Uuid
  | .instrument => s.instruments.uuids
  | .listing => s.listings.uuids
  | .bid => s.bids.uuids
  | .ask => s.asks.uuids
  | .ownership => s.ledger.uuids
  | .company | .user | .event => []

/-- A write adds no number of another kind than its own. -/
theorem Takes.uuids_other {s s' : Store} {w : Write} (h : s.Takes w s') {kind : IdKind}
    (other : kind ≠ w.kind)
    : s'.uuids kind = s.uuids kind := by
  cases h <;> cases kind <;> first | rfl | exact absurd rfl other

/-- A listing has no rival if no listing offers its instrument. -/
theorem rival?_eq_none {s : Store} {x : Listing}
    (unoffered : s.openListing? x.instrument = none)
    : s.rival? x = none := by
  rw [openListing?, List.find?_eq_none] at unoffered
  rw [rival?, List.find?_eq_none]
  intro other member
  simp [unoffered other member]

end Store

/-- The kind of thing that a command creates, if it creates any. -/
def Command.creates? : Command → Option IdKind
  | createDraft .. => some .instrument
  | recordIssuance .. | transfer .. => some .ownership
  | createListing .. => some .listing
  | placeBid .. => some .bid
  | placeAsk .. => some .ask
  | updateDraft .. | transitionInstrument .. | moveInstrument .. | transitionListing ..
  | transitionBid .. | acceptBid .. | rejectBid .. | transitionAsk .. | updateAsk .. => none

namespace Performs

variable {g : Given} {s s' : Store} {c : Command} {outcome : Outcome} {w : Write}
  {notice : Option (Happening × Instant)}

/-- The store takes the write of a command, if versions may grow and what is created has an
unknown number: by cases on what the command does.
-/
theorem taken (h : Performs g s c outcome (some w) notice) (sound : s.Sound)
    (chained : s.ledger.Chained) (growing : s.Growing)
    (unknown : ∀ kind, c.creates? = some kind → g.uuid kind ∉ s.uuids kind)
    : ∃ s', s.Takes w s' := by
  cases h with
  | createDraft checked =>
      have new : (g.id .instrument).uuid ∉ s.instruments.uuids := unknown .instrument rfl
      have id := (Instrument.draft_new checked (g.id .instrument)).1
      exact ⟨_, .instrument (Table.newer_of_unknown new id)⟩
  | updateDraft stored editable issuer nonempty applied =>
      obtain ⟨same, touched⟩ := Instrument.applyUpdate_touch applied
      obtain rfl := Table.get?_id stored
      exact ⟨_, .instrument (growing.instruments.newer stored same touched)⟩
  | moveInstrument stored other permitted =>
      obtain rfl := Table.get?_id stored
      exact ⟨_, .instrument (growing.instruments.newer stored rfl rfl)⟩
  | @recordIssuance instrument owner unowned =>
      have new : (g.id .ownership).uuid ∉ s.ledger.uuids := unknown .ownership rfl
      have absent := Ledger.hasRow_of_unknown new instrument
      exact ⟨_, .row (Ledger.insert_eq_ok.2 ⟨absent, fun _ => unowned, rfl⟩)⟩
  | @transfer instrument fromOwner toOwner reason active closing handed owned giver taker
      closed =>
      have new : (g.id .ownership).uuid ∉ s.ledger.uuids := unknown .ownership rfl
      obtain ⟨-, rfl⟩ := Ownership.relinquish_eq_ok.1 closed
      have member := Ledger.active?_mem owned
      obtain ⟨-, same⟩ := Ledger.mem_rowsOf.1 member
      subst same
      have found := find?_of_nodup (chained active.instrument).distinct member
      have absent := Ledger.hasRow_of_unknown new active.instrument
      refine ⟨_, .transfer (Ledger.transfer_eq_ok.2 ⟨rfl, rfl, rfl, ?_, absent, rfl⟩)⟩
      exact ⟨active, found, Ledger.active?_isActive owned⟩
  | createListing stored owned owner unoffered =>
      have new : (g.id .listing).uuid ∉ s.listings.uuids := unknown .listing rfl
      exact ⟨_, .listing (Table.newer_of_unknown new rfl)
        fun _ => Store.rival?_eq_none unoffered⟩
  | @transitionListing id target actor x verdict stored other permitted unoffered =>
      obtain rfl := Table.get?_id stored
      refine ⟨_, .listing (growing.listings.newer stored rfl rfl) fun offers => ?_⟩
      have opened : target = .opened := by
        simp only [Listing.offers, Bool.and_eq_true] at offers
        exact beq_iff_eq.1 offers.1.2
      exact Store.rival?_eq_none (unoffered opened)
  | placeBid stored isOpen foreign checked =>
      have new : (g.id .bid).uuid ∉ s.bids.uuids := unknown .bid rfl
      exact ⟨_, .bid (Table.newer_of_unknown new rfl)⟩
  | transitionBid stored other listed isOpen permitted =>
      obtain rfl := Table.get?_id stored
      exact ⟨_, .bid (growing.bids.newer stored rfl rfl)⟩
  | acceptBid stored pending listed isOpen seller select others =>
      obtain rfl := Table.get?_id stored
      obtain ⟨-, rfl⟩ := Bid.resolve_eq_ok.1 select
      refine ⟨_, .bids (List.forall_mem_cons.2 ⟨?_, ?_⟩)⟩
      · exact growing.bids.newer stored rfl rfl
      · intro b member
        obtain ⟨other, candidate, -, rfl⟩ := Bid.mem_setAside others member
        have listed := List.mem_of_mem_filter candidate
        exact growing.bids.newer ((Store.mem_bidsFor sound).1 listed).1 rfl rfl
  | rejectBid stored pending listed isOpen seller reject =>
      obtain rfl := Table.get?_id stored
      obtain ⟨-, rfl⟩ := Bid.resolve_eq_ok.1 reject
      exact ⟨_, .bid (growing.bids.newer stored rfl rfl)⟩
  | placeAsk stored isOpen seller checked made =>
      have new : (g.id .ask).uuid ∉ s.asks.uuids := unknown .ask rfl
      have id := (Ask.place_new made (g.id .ask)).1
      exact ⟨_, .ask (Table.newer_of_unknown new id)⟩
  | transitionAsk stored other listed isOpen permitted =>
      obtain rfl := Table.get?_id stored
      exact ⟨_, .ask (growing.asks.newer stored rfl rfl)⟩
  | updateAsk stored active listed isOpen asker applied =>
      obtain ⟨same, -, touched⟩ := Ask.applyUpdate_touch applied
      obtain rfl := Table.get?_id stored
      exact ⟨_, .ask (growing.asks.newer stored same touched)⟩

/-- Once the store has taken what a command creates, it knows the number of it: by cases on
what the command does.
-/
theorem uuids_created (h : Performs g s c outcome (some w) notice) (sound : s.Sound)
    (takes : s.Takes w s') {kind : IdKind} (creates : c.creates? = some kind)
    : s'.uuids kind = s.uuids kind ++ [g.uuid kind] := by
  cases h with
  | createDraft checked =>
      cases creates
      obtain ⟨id, new⟩ := Instrument.draft_new checked (g.id .instrument)
      cases takes with
      | instrument newer =>
          have added := Table.uuids_put_new sound.instruments new newer
          rw [show Stored.id _ = _ from id] at added
          exact added
  | recordIssuance unowned =>
      cases creates
      cases takes with
      | row inserted => exact Ledger.uuids_insert inserted
  | transfer handed owned giver taker closed =>
      cases creates
      cases takes with
      | transfer transferred => exact Ledger.uuids_transfer transferred
  | createListing stored owned owner unoffered =>
      cases creates
      cases takes with
      | listing newer alone => exact Table.uuids_put_new sound.listings rfl newer
  | placeBid stored isOpen foreign checked =>
      cases creates
      cases takes with
      | bid newer => exact Table.uuids_put_new sound.bids rfl newer
  | placeAsk stored isOpen seller checked made =>
      cases creates
      obtain ⟨id, -, new⟩ := Ask.place_new made (g.id .ask)
      cases takes with
      | ask newer =>
          have added := Table.uuids_put_new sound.asks new newer
          rw [show Stored.id _ = _ from id] at added
          exact added
  | _ => cases creates

/-- The store knows the same numbers of all other kinds after the write of a command: by
cases on what the command does.
-/
theorem uuids_kept (h : Performs g s c outcome (some w) notice) (sound : s.Sound)
    (takes : s.Takes w s') {kind : IdKind} (creates : c.creates? ≠ some kind)
    : s'.uuids kind = s.uuids kind := by
  by_cases own : kind = w.kind
  · subst own
    cases h with
    | updateDraft stored editable issuer nonempty applied =>
        obtain ⟨same, -⟩ := Instrument.applyUpdate_touch applied
        obtain rfl := Table.get?_id stored
        cases takes with
        | instrument newer => exact Table.uuids_put stored same
    | moveInstrument stored other permitted =>
        obtain rfl := Table.get?_id stored
        cases takes with
        | instrument newer => exact Table.uuids_put stored rfl
    | transitionListing stored other permitted unoffered =>
        obtain rfl := Table.get?_id stored
        cases takes with
        | listing newer alone => exact Table.uuids_put stored rfl
    | transitionBid stored other listed isOpen permitted =>
        obtain rfl := Table.get?_id stored
        cases takes with
        | bid newer => exact Table.uuids_put stored rfl
    | acceptBid stored pending listed isOpen seller select others =>
        obtain rfl := Table.get?_id stored
        obtain ⟨-, rfl⟩ := Bid.resolve_eq_ok.1 select
        cases takes with
        | bids newer =>
            refine congrArg (List.map Id.uuid) (Table.puts_ids ?_)
            refine List.forall_mem_cons.2 ⟨⟨_, (Table.get?_eq_some.1 stored).1⟩, ?_⟩
            intro b member
            obtain ⟨other, candidate, -, rfl⟩ := Bid.mem_setAside others member
            have listed := List.mem_of_mem_filter candidate
            exact ⟨_, (Table.get?_eq_some.1 ((Store.mem_bidsFor sound).1 listed).1).1⟩
    | rejectBid stored pending listed isOpen seller reject =>
        obtain rfl := Table.get?_id stored
        obtain ⟨-, rfl⟩ := Bid.resolve_eq_ok.1 reject
        cases takes with
        | bid newer => exact Table.uuids_put stored rfl
    | transitionAsk stored other listed isOpen permitted =>
        obtain rfl := Table.get?_id stored
        cases takes with
        | ask newer => exact Table.uuids_put stored rfl
    | updateAsk stored active listed isOpen asker applied =>
        obtain ⟨same, -, -⟩ := Ask.applyUpdate_touch applied
        obtain rfl := Table.get?_id stored
        cases takes with
        | ask newer => exact Table.uuids_put stored same
    | _ => exact absurd rfl creates
  · exact takes.uuids_other own

end Performs

namespace Command

variable {g : Given} {s s' : Store}

/-- The store refuses no command, if versions may grow and what is created has an unknown
number.
-/
theorem result_opening (c : Command) (sound : s.Sound) (chained : s.ledger.Chained)
    (growing : s.Growing)
    (unknown : ∀ kind, c.opening.creates? = some kind → g.uuid kind ∉ s.uuids kind)
    (e : StoreError)
    : (c.opening.operation.effect g s).result ≠ .error (.store e) := by
  intro failed
  obtain ⟨outcome, w, notice, performs, refused⟩ := (c.performed_opening g s).2 e failed
  obtain ⟨s', takes⟩ := performs.taken sound chained growing unknown
  rw [takes.accepted] at refused
  cases refused

/-- A command that succeeds leaves the numbers of a kind as they are or adds the one of what
it creates.
-/
theorem uuids_opening (c : Command) (sound : s.Sound) {outcome : Outcome}
    {notices : List (Happening × Instant)}
    (effect : c.opening.operation.effect g s = ⟨.ok outcome, s', notices⟩) (kind : IdKind)
    : s'.uuids kind = s.uuids kind
      ∨ c.opening.creates? = some kind ∧ s'.uuids kind = s.uuids kind ++ [g.uuid kind] := by
  have performed := (c.performed_opening g s).1 outcome (by rw [effect])
  rw [effect] at performed
  obtain ⟨w, notice, performs, wrote, -⟩ := performed
  cases w with
  | none =>
      left
      rw [show s' = s from wrote]
  | some w =>
      have takes := Store.write_takes wrote
      by_cases creates : c.opening.creates? = some kind
      · exact .inr ⟨creates, performs.uuids_created sound takes creates⟩
      · exact .inl (performs.uuids_kept sound takes creates)

end Command

end DebtMarket
