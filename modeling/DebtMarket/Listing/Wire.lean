import DebtMarket.Listing

/-! Listings in JSON. -/

namespace DebtMarket

namespace Listing

/-- The names of the fields apart from the revision, in order. -/
def fields : List String :=
  ["id", "instrument_id", "seller_company_id", "creator_user_id", "status"]

/-- In JSON a listing is a record. -/
instance : Json.Codec Listing where
  encode x :=
    .obj
      ([
        ("id", Json.encode x.id),
        ("instrument_id", Json.encode x.instrument),
        ("seller_company_id", Json.encode x.seller),
        ("creator_user_id", Json.encode x.creator),
        ("status", Json.encode x.status)
      ] ++ x.revision.encode)
  decode j := do
    let r ← Json.wholeRecord? (fields ++ Revision.fields) j
    return {
      id := ← r.read "id",
      instrument := ← r.read "instrument_id",
      seller := ← r.read "seller_company_id",
      creator := ← r.read "creator_user_id",
      status := ← r.read "status",
      revision := ← Revision.decode r
    }

/-- The record with what follows from it. -/
def view (x : Listing) : Json :=
  (Json.encode x).extend
    [("is_open", .bool x.isOpen), ("is_deleted", .bool x.revision.isDeleted)]

end Listing

end DebtMarket
