import DebtMarket.Bid

/-! Bids, requests for them and acceptances in JSON. -/

namespace DebtMarket

namespace BidRequest

/-- The names of the fields, in order. -/
def fields : List String :=
  ["listing_id", "amount", "currency", "valid_until"]

/-- In JSON a request is a record whose deadline may be left out. -/
instance : Json.Codec BidRequest where
  encode r :=
    .obj
      [
        ("listing_id", Json.encode r.listing),
        ("amount", Json.encode r.amount),
        ("currency", Json.encode r.currency),
        ("valid_until", Json.encode r.validUntil)
      ]
  decode j := do
    let r ← Json.record? fields 3 j
    return {
      listing := ← r.read "listing_id",
      amount := ← r.read "amount",
      currency := ← r.read "currency",
      validUntil := ← r.read "valid_until"
    }

end BidRequest

namespace Bid

/-- The names of the fields apart from the revision, in order. -/
def fields : List String :=
  ["id", "listing_id", "bidder_company_id", "bidder_user_id", "amount", "currency",
    "valid_until", "status"]

/-- In JSON a bid is a record. -/
instance : Json.Codec Bid where
  encode b :=
    .obj
      ([
        ("id", Json.encode b.id),
        ("listing_id", Json.encode b.listing),
        ("bidder_company_id", Json.encode b.bidder),
        ("bidder_user_id", Json.encode b.bidderUser),
        ("amount", Json.encode b.amount),
        ("currency", Json.encode b.currency),
        ("valid_until", Json.encode b.validUntil),
        ("status", Json.encode b.status)
      ] ++ b.revision.encode)
  decode j := do
    let r ← Json.wholeRecord? (fields ++ Revision.fields) j
    return {
      id := ← r.read "id",
      listing := ← r.read "listing_id",
      bidder := ← r.read "bidder_company_id",
      bidderUser := ← r.read "bidder_user_id",
      amount := ← r.read "amount",
      currency := ← r.read "currency",
      validUntil := ← r.read "valid_until",
      status := ← r.read "status",
      revision := ← Revision.decode r
    }

/-- The record with what follows from it. -/
def view (b : Bid) : Json :=
  (Json.encode b).extend
    [("is_pending", .bool b.isPending), ("is_deleted", .bool b.revision.isDeleted)]

end Bid

namespace Acceptance

/-- An acceptance as it is answered. -/
def view (a : Acceptance) : Json :=
  .obj [("selected", a.selected.view), ("set_aside", .arr (a.setAside.map Bid.view))]

end Acceptance

end DebtMarket
