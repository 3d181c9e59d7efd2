import DebtMarket.Ask.Wire
import DebtMarket.Bid.Wire
import DebtMarket.Instrument.Wire
import DebtMarket.Listing.Wire
import DebtMarket.Ownership.Wire
import DebtMarket.Proofs.Json.Lossless

/-! The JSON forms of what the market stores: instruments, listings, bids, asks and ownership
rows, and of the actors that change them. Each decoder asks for its members by name, each encoder
writes them.
-/

namespace DebtMarket

open Json
open Json.Content (settled amounts currencies)

namespace Revision

/-- What a revision asks of the record that it is a part of. -/
def demands (x : Revision) : List Demand :=
  [
    .reads "version" x.version,
    .reads "created_at" x.createdAt,
    .reads "updated_at" x.updatedAt,
    .reads "deleted_at" x.deletedAt
  ]

theorem decode_eq_some {r : Record} {x : Revision}
    : decode r = some x ↔ ∀ d ∈ x.demands, d.In r := by
  simp only [demands, List.forall_mem_cons, Demand.reads_in]
  simp only [decode, ↓bind_eq_some, ↓pure_eq_some]
  grind [cases Revision]

end Revision

namespace Instrument

instance : Content Instrument where
  payload x := x.publicPayload
  Same x x' :=
    ∃ payload, Option.Rel Reordered x.publicPayload payload
      ∧ x' = { x with publicPayload := payload }
  amounts x := [x.faceValue, x.maturityPayment]
  currencies x := [x.currency]

/-- What an instrument asks of the record that it is read from. -/
def demands (x : Instrument) : List Demand :=
  [
    .reads "id" x.id,
    .reads "issuer_id" x.issuer,
    .reads "created_by" x.createdBy,
    .reads "name" x.name,
    .reads "face_value" x.faceValue,
    .reads "currency" x.currency,
    .reads "maturity_date" x.maturityDate,
    .reads "maturity_payment" x.maturityPayment,
    .reads "public_payload" x.publicPayload,
    .reads "instrument_status" x.status,
    .reads "maturity_status" x.maturityStatus,
    .reads "trading_status" x.tradingStatus
  ] ++ x.revision.demands

theorem decode_obj {r : Record} {x : Instrument}
    : decode (.obj r) = some x ↔ ∀ d ∈ x.demands, d.In r := by
  simp only [demands, List.forall_mem_append, List.forall_mem_cons, Demand.reads_in,
    ← Revision.decode_eq_some]
  show (some r >>= fun r => _) = some x ↔ _
  simp only [↓bind_eq_some, ↓pure_eq_some]
  grind [cases Instrument]

/-- The JSON form of an instrument, by members. -/
def shape : Shape Instrument where
  found? := wholeRecord? (fields ++ Revision.fields)
  demands := demands
  decode_obj := decode_obj
  alike {r r' x} alike read := by
    have own : .reads "public_payload" x.publicPayload ∈ demands x := by simp [demands]
    have others : ∀ payload', ∀ d ∈ demands { x with publicPayload := payload' },
        d = .reads "public_payload" payload' ∨ d ∈ demands x ∧ d.Unordered := by
      simp [demands, Revision.demands]
    obtain ⟨payload, read', order⟩ := decode_alike_payload decode_obj own others alike read
    exact ⟨_, read', payload, order, rfl⟩
  encoded x explicit := by
    have passed : decode (encode x.publicPayload) = some x.publicPayload :=
      decode_encode_payload explicit
    exact ⟨_, rfl, by simp [demands, Revision.demands, Revision.encode, settled, passed]⟩
  amounts x := by
    simp only [amounts, List.forall_mem_cons]
    exact ⟨⟨"face_value", by simp [demands]⟩, ⟨"maturity_payment", by simp [demands]⟩, nofun⟩
  currencies x c held := ⟨"currency", by simp_all [demands, currencies]⟩

end Instrument

namespace Listing

instance : Content Listing where

/-- What a listing asks of the record that it is read from. -/
def demands (x : Listing) : List Demand :=
  [
    .reads "id" x.id,
    .reads "instrument_id" x.instrument,
    .reads "seller_company_id" x.seller,
    .reads "creator_user_id" x.creator,
    .reads "status" x.status
  ] ++ x.revision.demands

theorem decode_obj {r : Record} {x : Listing}
    : decode (.obj r) = some x ↔ ∀ d ∈ x.demands, d.In r := by
  simp only [demands, List.forall_mem_append, List.forall_mem_cons, Demand.reads_in,
    ← Revision.decode_eq_some]
  show (some r >>= fun r => _) = some x ↔ _
  simp only [↓bind_eq_some, ↓pure_eq_some]
  grind [cases Listing]

/-- The JSON form of a listing, by members. -/
def shape : Shape Listing where
  found? := wholeRecord? (fields ++ Revision.fields)
  demands := demands
  decode_obj := decode_obj
  alike alike read :=
    ⟨_, decode_alike decode_obj (by simp [demands, Revision.demands]) alike read, rfl⟩
  encoded x _ := ⟨_, rfl, by simp [demands, Revision.demands, Revision.encode, settled]⟩

end Listing

namespace Bid

instance : Content Bid where
  amounts x := [x.amount]
  currencies x := [x.currency]

/-- What a bid asks of the record that it is read from. -/
def demands (x : Bid) : List Demand :=
  [
    .reads "id" x.id,
    .reads "listing_id" x.listing,
    .reads "bidder_company_id" x.bidder,
    .reads "bidder_user_id" x.bidderUser,
    .reads "amount" x.amount,
    .reads "currency" x.currency,
    .reads "valid_until" x.validUntil,
    .reads "status" x.status
  ] ++ x.revision.demands

theorem decode_obj {r : Record} {x : Bid}
    : decode (.obj r) = some x ↔ ∀ d ∈ x.demands, d.In r := by
  simp only [demands, List.forall_mem_append, List.forall_mem_cons, Demand.reads_in,
    ← Revision.decode_eq_some]
  show (some r >>= fun r => _) = some x ↔ _
  simp only [↓bind_eq_some, ↓pure_eq_some]
  grind [cases Bid]

/-- The JSON form of a bid, by members. -/
def shape : Shape Bid where
  found? := wholeRecord? (fields ++ Revision.fields)
  demands := demands
  decode_obj := decode_obj
  alike alike read :=
    ⟨_, decode_alike decode_obj (by simp [demands, Revision.demands]) alike read, rfl⟩
  encoded x _ := ⟨_, rfl, by simp [demands, Revision.demands, Revision.encode, settled]⟩
  amounts x a held := ⟨"amount", by simp_all [demands, amounts]⟩
  currencies x c held := ⟨"currency", by simp_all [demands, currencies]⟩

end Bid

namespace Ask

instance : Content Ask where
  amounts x := [x.amount]
  currencies x := [x.currency]

/-- What an ask asks of the record that it is read from. -/
def demands (x : Ask) : List Demand :=
  [
    .reads "id" x.id,
    .reads "listing_id" x.listing,
    .reads "asker_company_id" x.asker,
    .reads "asker_user_id" x.askerUser,
    .reads "amount" x.amount,
    .reads "currency" x.currency,
    .reads "valid_until" x.validUntil,
    .reads "execution_mode" x.mode,
    .reads "binding" x.binding,
    .reads "status" x.status
  ] ++ x.revision.demands

theorem decode_obj {r : Record} {x : Ask}
    : decode (.obj r) = some x ↔ ∀ d ∈ x.demands, d.In r := by
  simp only [demands, List.forall_mem_append, List.forall_mem_cons, Demand.reads_in,
    ← Revision.decode_eq_some]
  show (some r >>= fun r => _) = some x ↔ _
  simp only [↓bind_eq_some, ↓pure_eq_some]
  grind [cases Ask]

/-- The JSON form of an ask, by members. -/
def shape : Shape Ask where
  found? := wholeRecord? (fields ++ Revision.fields)
  demands := demands
  decode_obj := decode_obj
  alike alike read :=
    ⟨_, decode_alike decode_obj (by simp [demands, Revision.demands]) alike read, rfl⟩
  encoded x _ := ⟨_, rfl, by simp [demands, Revision.demands, Revision.encode, settled]⟩
  amounts x a held := ⟨"amount", by simp_all [demands, amounts]⟩
  currencies x c held := ⟨"currency", by simp_all [demands, currencies]⟩

end Ask

namespace Ownership

instance : Content Ownership where

/-- What an ownership row asks of the record that it is read from. -/
def demands (x : Ownership) : List Demand :=
  [
    .reads "id" x.id,
    .reads "instrument_id" x.instrument,
    .reads "owner_id" x.owner,
    .reads "acquired_at" x.acquiredAt,
    .reads "relinquished_at" x.relinquishedAt,
    .reads "acquisition_reason" x.reason
  ]

theorem decode_obj {r : Record} {x : Ownership}
    : decode (.obj r) = some x ↔ ∀ d ∈ x.demands, d.In r := by
  simp only [demands, List.forall_mem_cons, Demand.reads_in]
  show (some r >>= fun r => _) = some x ↔ _
  simp only [↓bind_eq_some, ↓pure_eq_some]
  grind [cases Ownership]

/-- The JSON form of an ownership row, by members. -/
def shape : Shape Ownership where
  found? := wholeRecord? fields
  demands := demands
  decode_obj := decode_obj
  alike alike read := ⟨_, decode_alike decode_obj (by simp [demands]) alike read, rfl⟩
  encoded x _ := ⟨_, rfl, by simp [demands, settled]⟩

end Ownership

namespace Actor

instance : Content Actor where

/-- What an actor asks of the record that it is read from. -/
def demands (x : Actor) : List Demand :=
  [
    .reads "user_id" x.user,
    .reads "company_id" x.company,
    .reads "role" x.role
  ]

theorem decode_obj {r : Record} {x : Actor}
    : decode (.obj r) = some x ↔ ∀ d ∈ x.demands, d.In r := by
  simp only [demands, List.forall_mem_cons, Demand.reads_in]
  show (some r >>= fun r => _) = some x ↔ _
  simp only [↓bind_eq_some, ↓pure_eq_some]
  grind [cases Actor]

/-- The JSON form of an actor, by members. -/
def shape : Shape Actor where
  found? := wholeRecord? ["user_id", "company_id", "role"]
  demands := demands
  decode_obj := decode_obj
  alike alike read := ⟨_, decode_alike decode_obj (by simp [demands]) alike read, rfl⟩
  encoded x _ := ⟨_, rfl, by simp [demands, settled]⟩

end Actor

end DebtMarket
