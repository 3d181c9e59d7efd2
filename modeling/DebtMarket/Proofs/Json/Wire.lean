import DebtMarket.Proofs.Json.Entities
import DebtMarket.Proofs.Json.Events
import DebtMarket.Proofs.Json.Requests

/-! No JSON form that crosses the wire loses anything, or lets in an amount or a currency that
could not be made.
-/

namespace DebtMarket

open Json (Lossless decode)

/-- Every stored record, every request, every filter and every event is read back from its JSON
form, whatever the order of members and whatever else stands among them, with the amounts and the
currencies that its members stand for. A decimal that is no amount keeps its value and its scale,
and with them its sign unless it is zero.
-/
theorem wire_lossless
    : (Lossless Instrument ∧ Lossless Listing ∧ Lossless Bid ∧ Lossless Ask
        ∧ Lossless Ownership ∧ Lossless Actor)
      ∧ (Lossless InstrumentTerms ∧ Lossless DraftUpdate ∧ Lossless AskTerms
        ∧ Lossless AskUpdate ∧ Lossless BidRequest ∧ Lossless AskRequest)
      ∧ (Lossless InstrumentFilter ∧ Lossless ListingFilter ∧ Lossless BidFilter
        ∧ Lossless AskFilter)
      ∧ (Lossless Event ∧ Lossless Happening)
      ∧ (∀ d : Decimal, d.settled.value = d.value ∧ d.settled.scale = d.scale
        ∧ (d.magnitude ≠ 0 ∨ d.negative = false → d.settled = d))
      ∧ (∀ (j : Json) (a : Amount),
        decode j = some a ↔ decode j = some a.decimal ∧ 0 < a.decimal.value)
      ∧ ∀ (j : Json) (c : Currency),
        decode j = some c ↔ ∃ s, j = .str s ∧ Currency.Spelled s c :=
  ⟨⟨Instrument.shape.lossless, Listing.shape.lossless, Bid.shape.lossless, Ask.shape.lossless,
      Ownership.shape.lossless, Actor.shape.lossless⟩,
    ⟨InstrumentTerms.shape.lossless, DraftUpdate.shape.lossless, AskTerms.shape.lossless,
      AskUpdate.shape.lossless, BidRequest.shape.lossless, AskRequest.shape.lossless⟩,
    ⟨InstrumentFilter.shape.lossless, ListingFilter.shape.lossless, BidFilter.shape.lossless,
      AskFilter.shape.lossless⟩,
    ⟨Event.shape.lossless, Happening.shape.lossless⟩,
    fun d => ⟨d.settled_value, rfl, Decimal.settled_eq⟩,
    fun _ a => Amount.decode_eq_some.trans (and_iff_left a.value_pos).symm,
    fun _ _ => Currency.decode_eq_some⟩

end DebtMarket
