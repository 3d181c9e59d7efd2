import DebtMarket.Proofs.Command.Admission
import DebtMarket.Proofs.Command.Effect
import DebtMarket.Proofs.Market.Run
import DebtMarket.Proofs.Store.Live

/-! Deleted records are out of sight. No request and no inquiry tells a store from the same
store without the records that are marked as deleted, and no request touches one of them. So a
record that is marked as deleted blocks nothing and never comes back.
-/

namespace DebtMarket

namespace Store

variable {s : Store} {w : Write}

/-- A write that leaves the deleted records alone does the same without them. -/
theorem Keyed.writesAlike_live (keyed : s.Keyed) (spares : s.Spares w)
    : s.WritesAlike (fun s' s₁' => s'.Keyed ∧ s₁' = s'.live ∧ s'.deleted = s.deleted) s.live w := by
  have same := keyed.write_live spares
  cases written : s.write w with
  | error e =>
      rw [written] at same
      exact .inl ⟨e, written, same⟩
  | ok s' =>
      rw [written] at same
      have takes := write_takes written
      exact .inr ⟨s', s'.live, written, same, takes.keyed keyed, rfl,
        takes.deleted keyed spares⟩

end Store

namespace Performs

variable {g : Given} {s : Store} {c : Command} {outcome : Outcome} {w : Write}
  {notice : Option (Happening × Instant)}

/-- What a command writes leaves the deleted records alone, if what it creates has an unknown
number: by cases on what the command does.
-/
theorem spares (h : Performs g s c outcome (some w) notice) (keyed : s.Keyed)
    (unknown : ∀ kind, kind ≠ .ownership → c.creates? = some kind → g.uuid kind ∉ s.uuids kind)
    : s.Spares w := by
  cases h with
  | createDraft checked =>
      have absent : s.instruments.find? (g.id .instrument) = none :=
        Table.find?_of_unknown (unknown .instrument (by decide) rfl)
      obtain ⟨id, new⟩ := Instrument.draft_new checked (g.id .instrument)
      exact Table.spares_first new id absent
  | updateDraft stored editable issuer nonempty applied =>
      obtain ⟨same, touched⟩ := Instrument.applyUpdate_touch applied
      obtain rfl := Table.get?_id stored
      exact Table.spares_next stored same touched
  | moveInstrument stored other permitted =>
      obtain rfl := Table.get?_id stored
      exact Table.spares_next stored rfl rfl
  | recordIssuance unowned => trivial
  | transfer handed owned giver taker closed => trivial
  | createListing stored owned owner unoffered =>
      have absent : s.listings.find? (g.id .listing) = none :=
        Table.find?_of_unknown (unknown .listing (by decide) rfl)
      exact Table.spares_first rfl rfl absent
  | transitionListing stored other permitted unoffered =>
      obtain rfl := Table.get?_id stored
      exact Table.spares_next stored rfl rfl
  | placeBid stored isOpen foreign checked =>
      have absent : s.bids.find? (g.id .bid) = none :=
        Table.find?_of_unknown (unknown .bid (by decide) rfl)
      exact Table.spares_first rfl rfl absent
  | transitionBid stored other listed isOpen permitted =>
      obtain rfl := Table.get?_id stored
      exact Table.spares_next stored rfl rfl
  | acceptBid stored pending listed isOpen seller select others =>
      obtain rfl := Table.get?_id stored
      obtain ⟨-, rfl⟩ := Bid.resolve_eq_ok.1 select
      refine List.forall_mem_cons.2 ⟨Table.spares_next stored rfl rfl, fun b member => ?_⟩
      obtain ⟨other, among, -, rfl⟩ := Bid.mem_setAside others member
      have listed := List.mem_of_mem_filter among
      exact Table.spares_next ((Store.mem_bidsFor_of_keyed keyed.bids).1 listed).1 rfl rfl
  | rejectBid stored pending listed isOpen seller reject =>
      obtain rfl := Table.get?_id stored
      obtain ⟨-, rfl⟩ := Bid.resolve_eq_ok.1 reject
      exact Table.spares_next stored rfl rfl
  | placeAsk stored isOpen seller checked made =>
      have absent : s.asks.find? (g.id .ask) = none :=
        Table.find?_of_unknown (unknown .ask (by decide) rfl)
      obtain ⟨id, -, new⟩ := Ask.place_new made (g.id .ask)
      exact Table.spares_first new id absent
  | transitionAsk stored other listed isOpen permitted =>
      obtain rfl := Table.get?_id stored
      exact Table.spares_next stored rfl rfl
  | updateAsk stored active listed isOpen asker applied =>
      obtain ⟨same, -, touched⟩ := Ask.applyUpdate_touch applied
      obtain rfl := Table.get?_id stored
      exact Table.spares_next stored same touched

end Performs

namespace Command

variable {s : Store} {g : Given}

/-- The opening of a request has the same effect without the deleted records, and leaves them
where they are.
-/
theorem opening_live (c : Command) (keyed : s.Keyed)
    (unknown
      : ∀ kind, kind ≠ .ownership → c.opening.creates? = some kind
        → g.uuid kind ∉ s.uuids kind)
    : (c.opening.operation.effect g s).Alike
        (fun s' s₁' => s'.Keyed ∧ s₁' = s'.live ∧ s'.deleted = s.deleted)
        (c.opening.operation.effect g s.live) := by
  refine (c.walks_opening g s).effect_alike (fun q _ => keyed.answer_live q) ⟨keyed, rfl, rfl⟩ ?_
  rintro outcome w notices ⟨notice, performs, -⟩
  exact keyed.writesAlike_live (performs.spares keyed unknown)

/-- Deleted records are out of sight: every inquiry comes to the same, the ledger is the same,
and every request has the same result and makes the same known when they are taken out of the
store. What it leaves is the same but for the deleted records, which stay where they are.
-/
theorem deleted_unseen (keyed : s.Keyed) (unknown : ∀ kind, g.uuid kind ∉ s.uuids kind)
    : (∀ q, s.live.inquire q = s.inquire q) ∧ s.live.ledger = s.ledger
      ∧ ∀ c : Command,
          (c.operation.effect g s).Alike (fun s' s₁' => s₁' = s'.live ∧ s'.deleted = s.deleted)
            (c.operation.effect g s.live) := by
  refine ⟨keyed.inquire_live, rfl, fun c => ?_⟩
  rw [c.operation_effect, c.operation_effect]
  have opening := c.opening_live keyed fun kind _ _ => unknown kind
  refine (c.effect_alike opening fun id target actor owner s' s₁' _ related => ?_).mono
    fun s' s₁' related => related.2
  obtain ⟨keyed', rfl, deleted⟩ := related
  have issued := (recordIssuance id owner).opening_live (g := g) keyed' fun kind other creates =>
    absurd (Option.some.inj creates).symm other
  exact issued.mono fun s' s₁' related => ⟨related.1, related.2.1, related.2.2.trans deleted⟩

namespace Sample

open Market.Sample

/-- A company that owns an instrument. -/
def owner : Actor :=
  { user := ⟨⟨1⟩⟩, company := ⟨⟨1⟩⟩, role := .seller }

/-- The active instrument of the company. -/
def note : Instrument :=
  {
    id := ⟨⟨0⟩⟩,
    issuer := owner.company,
    createdBy := owner.user,
    name := "note",
    faceValue := one,
    currency := euro,
    maturityDate := nextYear,
    maturityPayment := one,
    publicPayload := none,
    status := .active,
    maturityStatus := .due,
    tradingStatus := .draft,
    revision := Revision.first newYear
  }

/-- A store where an open listing of the instrument was marked as deleted. -/
def buried : Store :=
  {
    Store.empty with
    instruments := ⟨[note]⟩,
    listings := ⟨[(Listing.start note.id owner newYear ⟨⟨0⟩⟩).tombstone newYear]⟩,
    ledger := ⟨[Ownership.issue note.id owner.company newYear ⟨⟨0⟩⟩]⟩
  }

/-- The time and the identifiers that the next command is given. -/
def next : Given :=
  ⟨newYear, fun _ => ⟨1⟩⟩

end Sample

/-- The instrument is listed again, as it would be if it had never been listed. -/
theorem deleted_unseen_listing
    : (∃ x, ((createListing Sample.note.id Sample.owner).operation.effect Sample.next
          Sample.buried).result = .ok (.listing x))
      ∧ ((createListing Sample.note.id Sample.owner).operation.effect Sample.next
          Sample.buried).Alike (fun s' s₁' => s₁' = s'.live ∧ s'.deleted = Sample.buried.deleted)
          ((createListing Sample.note.id Sample.owner).operation.effect Sample.next
            Sample.buried.live) := by
  have keyed : Sample.buried.Keyed :=
    ⟨List.nodup_singleton _, List.nodup_singleton _, List.nodup_nil, List.nodup_nil⟩
  have unknown (kind : IdKind) : Sample.next.uuid kind ∉ Sample.buried.uuids kind := by
    cases kind <;> decide
  exact ⟨⟨_, rfl⟩, (deleted_unseen keyed unknown).2.2 _⟩

end Command

end DebtMarket
