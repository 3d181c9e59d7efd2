import DebtMarket.Ownership

/-! Ownership rows in JSON. -/

namespace DebtMarket

namespace Ownership

/-- The names of the fields, in order. -/
def fields : List String :=
  ["id", "instrument_id", "owner_id", "acquired_at", "relinquished_at",
    "acquisition_reason"]

/-- In JSON a row is a record. -/
instance : Json.Codec Ownership where
  encode row :=
    .obj
      [
        ("id", Json.encode row.id),
        ("instrument_id", Json.encode row.instrument),
        ("owner_id", Json.encode row.owner),
        ("acquired_at", Json.encode row.acquiredAt),
        ("relinquished_at", Json.encode row.relinquishedAt),
        ("acquisition_reason", Json.encode row.reason)
      ]
  decode j := do
    let r ← Json.wholeRecord? fields j
    return {
      id := ← r.read "id",
      instrument := ← r.read "instrument_id",
      owner := ← r.read "owner_id",
      acquiredAt := ← r.read "acquired_at",
      relinquishedAt := ← r.read "relinquished_at",
      reason := ← r.read "acquisition_reason"
    }

/-- The record with what follows from it. -/
def view (row : Ownership) : Json :=
  (Json.encode row).extend
    [("is_active", .bool row.isActive)]

end Ownership

end DebtMarket
