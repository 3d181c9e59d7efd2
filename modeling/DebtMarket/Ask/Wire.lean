import DebtMarket.Ask

/-! Asks, their terms and updates, and requests for them in JSON. -/

namespace DebtMarket

namespace AskTerms

/-- The names of the fields, in order. -/
def fields : List String :=
  ["amount", "currency", "valid_until", "execution_mode", "binding"]

/-- In JSON terms are a record. -/
instance : Json.Codec AskTerms where
  encode t :=
    .obj
      [
        ("amount", Json.encode t.amount),
        ("currency", Json.encode t.currency),
        ("valid_until", Json.encode t.validUntil),
        ("execution_mode", Json.encode t.mode),
        ("binding", Json.encode t.binding)
      ]
  decode j := do
    let r ← Json.wholeRecord? fields j
    return {
      amount := ← r.read "amount",
      currency := ← r.read "currency",
      validUntil := ← r.read "valid_until",
      mode := ← r.read "execution_mode",
      binding := ← r.read "binding"
    }

end AskTerms

namespace AskUpdate

/-- The names of the fields, in order. -/
def fields : List String :=
  ["amount", "currency", "valid_until"]

/-- In JSON an update is a record in which absent fields are null. -/
instance : Json.Codec AskUpdate where
  encode u :=
    .obj
      [
        ("amount", Json.encode u.amount),
        ("currency", Json.encode u.currency),
        ("valid_until", Json.encode u.validUntil)
      ]
  decode j := do
    let r ← Json.wholeRecord? fields j
    return {
      amount := ← r.read "amount",
      currency := ← r.read "currency",
      validUntil := ← r.read "valid_until"
    }

end AskUpdate

namespace AskRequest

/-- The names of the fields, in order. -/
def fields : List String :=
  ["listing_id", "amount", "currency", "valid_until", "execution_mode", "binding"]

/-- In JSON a request is a record whose last three fields may be left out. -/
instance : Json.Codec AskRequest where
  encode r :=
    .obj
      [
        ("listing_id", Json.encode r.listing),
        ("amount", Json.encode r.amount),
        ("currency", Json.encode r.currency),
        ("valid_until", Json.encode r.validUntil),
        ("execution_mode", Json.encode r.mode),
        ("binding", Json.encode r.binding)
      ]
  decode j := do
    let r ← Json.record? fields 3 j
    return {
      listing := ← r.read "listing_id",
      amount := ← r.read "amount",
      currency := ← r.read "currency",
      validUntil := ← r.read "valid_until",
      mode := ← r.readOr "execution_mode" default,
      binding := ← r.readOr "binding" false
    }

end AskRequest

namespace Ask

/-- The names of the fields apart from the revision, in order. -/
def fields : List String :=
  ["id", "listing_id", "asker_company_id", "asker_user_id", "amount", "currency",
    "valid_until", "execution_mode", "binding", "status"]

/-- In JSON an ask is a record. -/
instance : Json.Codec Ask where
  encode a :=
    .obj
      ([
        ("id", Json.encode a.id),
        ("listing_id", Json.encode a.listing),
        ("asker_company_id", Json.encode a.asker),
        ("asker_user_id", Json.encode a.askerUser),
        ("amount", Json.encode a.amount),
        ("currency", Json.encode a.currency),
        ("valid_until", Json.encode a.validUntil),
        ("execution_mode", Json.encode a.mode),
        ("binding", Json.encode a.binding),
        ("status", Json.encode a.status)
      ] ++ a.revision.encode)
  decode j := do
    let r ← Json.wholeRecord? (fields ++ Revision.fields) j
    return {
      id := ← r.read "id",
      listing := ← r.read "listing_id",
      asker := ← r.read "asker_company_id",
      askerUser := ← r.read "asker_user_id",
      amount := ← r.read "amount",
      currency := ← r.read "currency",
      validUntil := ← r.read "valid_until",
      mode := ← r.read "execution_mode",
      binding := ← r.read "binding",
      status := ← r.read "status",
      revision := ← Revision.decode r
    }

/-- The record with what follows from it. -/
def view (a : Ask) : Json :=
  (Json.encode a).extend
    [("is_active", .bool a.isActive), ("is_deleted", .bool a.revision.isDeleted)]

end Ask

end DebtMarket
