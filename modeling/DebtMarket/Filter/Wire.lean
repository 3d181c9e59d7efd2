import DebtMarket.Filter

/-! Filters in JSON. -/

namespace DebtMarket

namespace InstrumentFilter

/-- The names of the fields, in order. -/
def fields : List String :=
  ["instrument_status", "maturity_status", "currency", "min_face_value",
    "max_face_value", "min_maturity_payment", "max_maturity_payment",
    "maturity_date_after", "maturity_date_before", "created_at_after",
    "created_at_before", "issuer_ids", "created_by"]

/-- In JSON a filter is a record; its lists have to be there. -/
instance : Json.Codec InstrumentFilter where
  encode f :=
    .obj
      [
        ("instrument_status", Json.encode f.status),
        ("maturity_status", Json.encode f.maturityStatus),
        ("currency", Json.encode f.currency),
        ("min_face_value", Json.encode f.minFaceValue),
        ("max_face_value", Json.encode f.maxFaceValue),
        ("min_maturity_payment", Json.encode f.minMaturityPayment),
        ("max_maturity_payment", Json.encode f.maxMaturityPayment),
        ("maturity_date_after", Json.encode f.maturityDateAfter),
        ("maturity_date_before", Json.encode f.maturityDateBefore),
        ("created_at_after", Json.encode f.createdAtAfter),
        ("created_at_before", Json.encode f.createdAtBefore),
        ("issuer_ids", Json.encode f.issuers),
        ("created_by", Json.encode f.createdBy)
      ]
  decode j := do
    let r ← Json.wholeRecord? fields j
    return {
      status := ← r.read "instrument_status",
      maturityStatus := ← r.read "maturity_status",
      currency := ← r.read "currency",
      minFaceValue := ← r.read "min_face_value",
      maxFaceValue := ← r.read "max_face_value",
      minMaturityPayment := ← r.read "min_maturity_payment",
      maxMaturityPayment := ← r.read "max_maturity_payment",
      maturityDateAfter := ← r.read "maturity_date_after",
      maturityDateBefore := ← r.read "maturity_date_before",
      createdAtAfter := ← r.read "created_at_after",
      createdAtBefore := ← r.read "created_at_before",
      issuers := ← r.read "issuer_ids",
      createdBy := ← r.read "created_by"
    }

end InstrumentFilter

namespace ListingFilter

/-- The names of the fields, in order. -/
def fields : List String :=
  ["status", "instrument_id", "seller_company_ids", "creator_user_ids"]

/-- In JSON a filter is a record; its lists have to be there. -/
instance : Json.Codec ListingFilter where
  encode f :=
    .obj
      [
        ("status", Json.encode f.status),
        ("instrument_id", Json.encode f.instrument),
        ("seller_company_ids", Json.encode f.sellers),
        ("creator_user_ids", Json.encode f.creators)
      ]
  decode j := do
    let r ← Json.wholeRecord? fields j
    return {
      status := ← r.read "status",
      instrument := ← r.read "instrument_id",
      sellers := ← r.read "seller_company_ids",
      creators := ← r.read "creator_user_ids"
    }

end ListingFilter

namespace BidFilter

/-- The names of the fields, in order. -/
def fields : List String :=
  ["listing_id", "status", "bidder_company_ids", "bidder_user_ids", "currency",
    "min_amount", "max_amount"]

/-- In JSON a filter is a record; its lists have to be there. -/
instance : Json.Codec BidFilter where
  encode f :=
    .obj
      [
        ("listing_id", Json.encode f.listing),
        ("status", Json.encode f.status),
        ("bidder_company_ids", Json.encode f.bidders),
        ("bidder_user_ids", Json.encode f.bidderUsers),
        ("currency", Json.encode f.currency),
        ("min_amount", Json.encode f.minAmount),
        ("max_amount", Json.encode f.maxAmount)
      ]
  decode j := do
    let r ← Json.wholeRecord? fields j
    return {
      listing := ← r.read "listing_id",
      status := ← r.read "status",
      bidders := ← r.read "bidder_company_ids",
      bidderUsers := ← r.read "bidder_user_ids",
      currency := ← r.read "currency",
      minAmount := ← r.read "min_amount",
      maxAmount := ← r.read "max_amount"
    }

end BidFilter

namespace AskFilter

/-- The names of the fields, in order. -/
def fields : List String :=
  ["listing_id", "status", "asker_company_ids", "asker_user_ids", "currency",
    "execution_mode", "binding", "min_amount", "max_amount"]

/-- In JSON a filter is a record; its lists have to be there. -/
instance : Json.Codec AskFilter where
  encode f :=
    .obj
      [
        ("listing_id", Json.encode f.listing),
        ("status", Json.encode f.status),
        ("asker_company_ids", Json.encode f.askers),
        ("asker_user_ids", Json.encode f.askerUsers),
        ("currency", Json.encode f.currency),
        ("execution_mode", Json.encode f.mode),
        ("binding", Json.encode f.binding),
        ("min_amount", Json.encode f.minAmount),
        ("max_amount", Json.encode f.maxAmount)
      ]
  decode j := do
    let r ← Json.wholeRecord? fields j
    return {
      listing := ← r.read "listing_id",
      status := ← r.read "status",
      askers := ← r.read "asker_company_ids",
      askerUsers := ← r.read "asker_user_ids",
      currency := ← r.read "currency",
      mode := ← r.read "execution_mode",
      binding := ← r.read "binding",
      minAmount := ← r.read "min_amount",
      maxAmount := ← r.read "max_amount"
    }

end AskFilter

end DebtMarket
