import DebtMarket.Ask.Wire
import DebtMarket.Bid.Wire
import DebtMarket.Filter.Wire
import DebtMarket.Instrument.Wire
import DebtMarket.Proofs.Json.Lossless

/-! The JSON forms of what the market is asked: terms and updates, requests, and filters. A bare
decimal keeps its scale, and its sign unless it is zero.
-/

namespace DebtMarket

open Json
open Json.Content (settled amounts currencies)

-----------------------------------------------------------------------------------------
-- Terms, updates and requests
-----------------------------------------------------------------------------------------

namespace InstrumentTerms

instance : Content InstrumentTerms where
  payload x := x.publicPayload
  Same x x' :=
    ∃ payload, Option.Rel Reordered x.publicPayload payload
      ∧ x' = { x with publicPayload := payload }
  settled x :=
    {
      x with
      faceValue := x.faceValue.settled,
      maturityPayment := x.maturityPayment.settled
    }
  currencies x := [x.currency]

/-- What a set of terms asks of the record that it is read from. -/
def demands (x : InstrumentTerms) : List Demand :=
  [
    .reads "name" x.name,
    .reads "face_value" x.faceValue,
    .reads "currency" x.currency,
    .reads "maturity_date" x.maturityDate,
    .reads "maturity_payment" x.maturityPayment,
    .reads "public_payload" x.publicPayload
  ]

theorem decode_obj {r : Record} {x : InstrumentTerms}
    : decode (.obj r) = some x ↔ ∀ d ∈ x.demands, d.In r := by
  simp only [demands, List.forall_mem_cons, Demand.reads_in]
  show (some r >>= fun r => _) = some x ↔ _
  simp only [↓bind_eq_some, ↓pure_eq_some]
  grind [cases InstrumentTerms]

/-- The JSON form of a set of terms, by members. -/
def shape : Shape InstrumentTerms where
  found? := wholeRecord? fields
  demands := demands
  decode_obj := decode_obj
  alike {r r' x} alike read := by
    have own : .reads "public_payload" x.publicPayload ∈ demands x := by simp [demands]
    have others : ∀ payload', ∀ d ∈ demands { x with publicPayload := payload' },
        d = .reads "public_payload" payload' ∨ d ∈ demands x ∧ d.Unordered := by
      simp [demands]
    obtain ⟨payload, read', order⟩ := decode_alike_payload decode_obj own others alike read
    exact ⟨_, read', payload, order, rfl⟩
  encoded x explicit := by
    have passed : decode (encode x.publicPayload) = some x.publicPayload :=
      decode_encode_payload explicit
    exact ⟨_, rfl, by simp [demands, settled, passed]⟩
  currencies x c held := ⟨"currency", by simp_all [demands, currencies]⟩

end InstrumentTerms

namespace DraftUpdate

instance : Content DraftUpdate where
  payload x := x.publicPayload
  Same x x' :=
    ∃ payload, Option.Rel Reordered x.publicPayload payload
      ∧ x' = { x with publicPayload := payload }
  settled x :=
    {
      x with
      faceValue := x.faceValue.map Decimal.settled,
      maturityPayment := x.maturityPayment.map Decimal.settled
    }
  currencies x := x.currency.toList

/-- What an update of a draft asks of the record that it is read from. -/
def demands (x : DraftUpdate) : List Demand :=
  [
    .reads "name" x.name,
    .reads "face_value" x.faceValue,
    .reads "currency" x.currency,
    .reads "maturity_date" x.maturityDate,
    .reads "maturity_payment" x.maturityPayment,
    .reads "public_payload" x.publicPayload
  ]

theorem decode_obj {r : Record} {x : DraftUpdate}
    : decode (.obj r) = some x ↔ ∀ d ∈ x.demands, d.In r := by
  simp only [demands, List.forall_mem_cons, Demand.reads_in]
  show (some r >>= fun r => _) = some x ↔ _
  simp only [↓bind_eq_some, ↓pure_eq_some]
  grind [cases DraftUpdate]

/-- The JSON form of an update of a draft, by members. -/
def shape : Shape DraftUpdate where
  found? := wholeRecord? fields
  demands := demands
  decode_obj := decode_obj
  alike {r r' x} alike read := by
    have own : .reads "public_payload" x.publicPayload ∈ demands x := by simp [demands]
    have others : ∀ payload', ∀ d ∈ demands { x with publicPayload := payload' },
        d = .reads "public_payload" payload' ∨ d ∈ demands x ∧ d.Unordered := by
      simp [demands]
    obtain ⟨payload, read', order⟩ := decode_alike_payload decode_obj own others alike read
    exact ⟨_, read', payload, order, rfl⟩
  encoded x explicit := by
    have passed : decode (encode x.publicPayload) = some x.publicPayload :=
      decode_encode_payload explicit
    exact ⟨_, rfl, by simp [demands, settled, passed]⟩
  currencies x c held := ⟨"currency", by simp_all [demands, currencies]⟩

end DraftUpdate

namespace AskTerms

instance : Content AskTerms where
  amounts x := [x.amount]
  currencies x := [x.currency]

/-- What the terms of an ask asks of the record that it is read from. -/
def demands (x : AskTerms) : List Demand :=
  [
    .reads "amount" x.amount,
    .reads "currency" x.currency,
    .reads "valid_until" x.validUntil,
    .reads "execution_mode" x.mode,
    .reads "binding" x.binding
  ]

theorem decode_obj {r : Record} {x : AskTerms}
    : decode (.obj r) = some x ↔ ∀ d ∈ x.demands, d.In r := by
  simp only [demands, List.forall_mem_cons, Demand.reads_in]
  show (some r >>= fun r => _) = some x ↔ _
  simp only [↓bind_eq_some, ↓pure_eq_some]
  grind [cases AskTerms]

/-- The JSON form of the terms of an ask, by members. -/
def shape : Shape AskTerms where
  found? := wholeRecord? fields
  demands := demands
  decode_obj := decode_obj
  alike alike read := ⟨_, decode_alike decode_obj (by simp [demands]) alike read, rfl⟩
  encoded x _ := ⟨_, rfl, by simp [demands, settled]⟩
  amounts x a held := ⟨"amount", by simp_all [demands, amounts]⟩
  currencies x c held := ⟨"currency", by simp_all [demands, currencies]⟩

end AskTerms

namespace AskUpdate

instance : Content AskUpdate where
  settled x := { x with amount := x.amount.map Decimal.settled }
  currencies x := x.currency.toList

/-- What an update of an ask asks of the record that it is read from. -/
def demands (x : AskUpdate) : List Demand :=
  [
    .reads "amount" x.amount,
    .reads "currency" x.currency,
    .reads "valid_until" x.validUntil
  ]

theorem decode_obj {r : Record} {x : AskUpdate}
    : decode (.obj r) = some x ↔ ∀ d ∈ x.demands, d.In r := by
  simp only [demands, List.forall_mem_cons, Demand.reads_in]
  show (some r >>= fun r => _) = some x ↔ _
  simp only [↓bind_eq_some, ↓pure_eq_some]
  grind [cases AskUpdate]

/-- The JSON form of an update of an ask, by members. -/
def shape : Shape AskUpdate where
  found? := wholeRecord? fields
  demands := demands
  decode_obj := decode_obj
  alike alike read := ⟨_, decode_alike decode_obj (by simp [demands]) alike read, rfl⟩
  encoded x _ := ⟨_, rfl, by simp [demands, settled]⟩
  currencies x c held := ⟨"currency", by simp_all [demands, currencies]⟩

end AskUpdate

namespace BidRequest

instance : Content BidRequest where
  settled x := { x with amount := x.amount.settled }
  currencies x := [x.currency]

/-- What a request for a bid asks of the record that it is read from. -/
def demands (x : BidRequest) : List Demand :=
  [
    .reads "listing_id" x.listing,
    .reads "amount" x.amount,
    .reads "currency" x.currency,
    .reads "valid_until" x.validUntil
  ]

theorem decode_obj {r : Record} {x : BidRequest}
    : decode (.obj r) = some x ↔ ∀ d ∈ x.demands, d.In r := by
  simp only [demands, List.forall_mem_cons, Demand.reads_in]
  show (some r >>= fun r => _) = some x ↔ _
  simp only [↓bind_eq_some, ↓pure_eq_some]
  grind [cases BidRequest]

/-- The JSON form of a request for a bid, by members. -/
def shape : Shape BidRequest where
  found? := record? fields 3
  demands := demands
  decode_obj := decode_obj
  alike alike read := ⟨_, decode_alike decode_obj (by simp [demands]) alike read, rfl⟩
  encoded x _ := ⟨_, rfl, by simp [demands, settled]⟩
  currencies x c held := ⟨"currency", by simp_all [demands, currencies]⟩

end BidRequest

namespace AskRequest

instance : Content AskRequest where
  settled x := { x with amount := x.amount.settled }
  currencies x := [x.currency]

/-- What a request for an ask asks of the record that it is read from. -/
def demands (x : AskRequest) : List Demand :=
  [
    .reads "listing_id" x.listing,
    .reads "amount" x.amount,
    .reads "currency" x.currency,
    .reads "valid_until" x.validUntil,
    .readsOr "execution_mode" default x.mode,
    .readsOr "binding" false x.binding
  ]

theorem decode_obj {r : Record} {x : AskRequest}
    : decode (.obj r) = some x ↔ ∀ d ∈ x.demands, d.In r := by
  simp only [demands, List.forall_mem_cons, Demand.reads_in, Demand.readsOr_in]
  show (some r >>= fun r => _) = some x ↔ _
  simp only [↓bind_eq_some, ↓pure_eq_some]
  grind [cases AskRequest]

/-- The JSON form of a request for an ask, by members. -/
def shape : Shape AskRequest where
  found? := record? fields 3
  demands := demands
  decode_obj := decode_obj
  alike alike read := ⟨_, decode_alike decode_obj (by simp [demands]) alike read, rfl⟩
  encoded x _ := ⟨_, rfl, by simp [demands, settled]⟩
  currencies x c held := ⟨"currency", by simp_all [demands, currencies]⟩

end AskRequest

-----------------------------------------------------------------------------------------
-- Filters
-----------------------------------------------------------------------------------------

namespace InstrumentFilter

instance : Content InstrumentFilter where
  settled x :=
    {
      x with
      minFaceValue := x.minFaceValue.map Decimal.settled,
      maxFaceValue := x.maxFaceValue.map Decimal.settled,
      minMaturityPayment := x.minMaturityPayment.map Decimal.settled,
      maxMaturityPayment := x.maxMaturityPayment.map Decimal.settled
    }
  currencies x := x.currency.toList

/-- What a filter of instruments asks of the record that it is read from. -/
def demands (x : InstrumentFilter) : List Demand :=
  [
    .reads "instrument_status" x.status,
    .reads "maturity_status" x.maturityStatus,
    .reads "currency" x.currency,
    .reads "min_face_value" x.minFaceValue,
    .reads "max_face_value" x.maxFaceValue,
    .reads "min_maturity_payment" x.minMaturityPayment,
    .reads "max_maturity_payment" x.maxMaturityPayment,
    .reads "maturity_date_after" x.maturityDateAfter,
    .reads "maturity_date_before" x.maturityDateBefore,
    .reads "created_at_after" x.createdAtAfter,
    .reads "created_at_before" x.createdAtBefore,
    .reads "issuer_ids" x.issuers,
    .reads "created_by" x.createdBy
  ]

theorem decode_obj {r : Record} {x : InstrumentFilter}
    : decode (.obj r) = some x ↔ ∀ d ∈ x.demands, d.In r := by
  simp only [demands, List.forall_mem_cons, Demand.reads_in]
  show (some r >>= fun r => _) = some x ↔ _
  simp only [↓bind_eq_some, ↓pure_eq_some]
  grind [cases InstrumentFilter]

/-- The JSON form of a filter of instruments, by members. -/
def shape : Shape InstrumentFilter where
  found? := wholeRecord? fields
  demands := demands
  decode_obj := decode_obj
  alike alike read := ⟨_, decode_alike decode_obj (by simp [demands]) alike read, rfl⟩
  encoded x _ := ⟨_, rfl, by simp [demands, settled]⟩
  currencies x c held := ⟨"currency", by simp_all [demands, currencies]⟩

end InstrumentFilter

namespace ListingFilter

instance : Content ListingFilter where

/-- What a filter of listings asks of the record that it is read from. -/
def demands (x : ListingFilter) : List Demand :=
  [
    .reads "status" x.status,
    .reads "instrument_id" x.instrument,
    .reads "seller_company_ids" x.sellers,
    .reads "creator_user_ids" x.creators
  ]

theorem decode_obj {r : Record} {x : ListingFilter}
    : decode (.obj r) = some x ↔ ∀ d ∈ x.demands, d.In r := by
  simp only [demands, List.forall_mem_cons, Demand.reads_in]
  show (some r >>= fun r => _) = some x ↔ _
  simp only [↓bind_eq_some, ↓pure_eq_some]
  grind [cases ListingFilter]

/-- The JSON form of a filter of listings, by members. -/
def shape : Shape ListingFilter where
  found? := wholeRecord? fields
  demands := demands
  decode_obj := decode_obj
  alike alike read := ⟨_, decode_alike decode_obj (by simp [demands]) alike read, rfl⟩
  encoded x _ := ⟨_, rfl, by simp [demands, settled]⟩

end ListingFilter

namespace BidFilter

instance : Content BidFilter where
  settled x :=
    {
      x with
      minAmount := x.minAmount.map Decimal.settled,
      maxAmount := x.maxAmount.map Decimal.settled
    }
  currencies x := x.currency.toList

/-- What a filter of bids asks of the record that it is read from. -/
def demands (x : BidFilter) : List Demand :=
  [
    .reads "listing_id" x.listing,
    .reads "status" x.status,
    .reads "bidder_company_ids" x.bidders,
    .reads "bidder_user_ids" x.bidderUsers,
    .reads "currency" x.currency,
    .reads "min_amount" x.minAmount,
    .reads "max_amount" x.maxAmount
  ]

theorem decode_obj {r : Record} {x : BidFilter}
    : decode (.obj r) = some x ↔ ∀ d ∈ x.demands, d.In r := by
  simp only [demands, List.forall_mem_cons, Demand.reads_in]
  show (some r >>= fun r => _) = some x ↔ _
  simp only [↓bind_eq_some, ↓pure_eq_some]
  grind [cases BidFilter]

/-- The JSON form of a filter of bids, by members. -/
def shape : Shape BidFilter where
  found? := wholeRecord? fields
  demands := demands
  decode_obj := decode_obj
  alike alike read := ⟨_, decode_alike decode_obj (by simp [demands]) alike read, rfl⟩
  encoded x _ := ⟨_, rfl, by simp [demands, settled]⟩
  currencies x c held := ⟨"currency", by simp_all [demands, currencies]⟩

end BidFilter

namespace AskFilter

instance : Content AskFilter where
  settled x :=
    {
      x with
      minAmount := x.minAmount.map Decimal.settled,
      maxAmount := x.maxAmount.map Decimal.settled
    }
  currencies x := x.currency.toList

/-- What a filter of asks asks of the record that it is read from. -/
def demands (x : AskFilter) : List Demand :=
  [
    .reads "listing_id" x.listing,
    .reads "status" x.status,
    .reads "asker_company_ids" x.askers,
    .reads "asker_user_ids" x.askerUsers,
    .reads "currency" x.currency,
    .reads "execution_mode" x.mode,
    .reads "binding" x.binding,
    .reads "min_amount" x.minAmount,
    .reads "max_amount" x.maxAmount
  ]

theorem decode_obj {r : Record} {x : AskFilter}
    : decode (.obj r) = some x ↔ ∀ d ∈ x.demands, d.In r := by
  simp only [demands, List.forall_mem_cons, Demand.reads_in]
  show (some r >>= fun r => _) = some x ↔ _
  simp only [↓bind_eq_some, ↓pure_eq_some]
  grind [cases AskFilter]

/-- The JSON form of a filter of asks, by members. -/
def shape : Shape AskFilter where
  found? := wholeRecord? fields
  demands := demands
  decode_obj := decode_obj
  alike alike read := ⟨_, decode_alike decode_obj (by simp [demands]) alike read, rfl⟩
  encoded x _ := ⟨_, rfl, by simp [demands, settled]⟩
  currencies x c held := ⟨"currency", by simp_all [demands, currencies]⟩

end AskFilter

end DebtMarket
