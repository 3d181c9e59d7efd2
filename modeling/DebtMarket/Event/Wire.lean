import DebtMarket.Event

/-! Changes and events in JSON. -/

namespace DebtMarket

namespace Happening

/-- The members of a change in JSON, apart from its type. -/
def members : Happening → List (String × Json)
  | instrumentCreated instrument issuer =>
      [
        ("instrument_id", Json.encode instrument),
        ("issuer_id", Json.encode issuer)
      ]
  | instrumentStatusChanged instrument before after maturity =>
      [
        ("instrument_id", Json.encode instrument),
        ("from", Json.encode before),
        ("to", Json.encode after),
        ("maturity_status", Json.encode maturity)
      ]
  | ownershipIssued instrument row owner =>
      [
        ("instrument_id", Json.encode instrument),
        ("ownership_id", Json.encode row),
        ("owner_id", Json.encode owner)
      ]
  | ownershipTransferred instrument row fromOwner toOwner reason =>
      [
        ("instrument_id", Json.encode instrument),
        ("ownership_id", Json.encode row),
        ("from_owner_id", Json.encode fromOwner),
        ("to_owner_id", Json.encode toOwner),
        ("reason", Json.encode reason)
      ]
  | listingOpened listing instrument seller =>
      [
        ("listing_id", Json.encode listing),
        ("instrument_id", Json.encode instrument),
        ("seller_company_id", Json.encode seller)
      ]
  | listingStatusChanged listing before after =>
      [
        ("listing_id", Json.encode listing),
        ("from", Json.encode before),
        ("to", Json.encode after)
      ]
  | bidPlaced bid listing bidder =>
      [
        ("bid_id", Json.encode bid),
        ("listing_id", Json.encode listing),
        ("bidder_company_id", Json.encode bidder)
      ]
  | bidStatusChanged bid listing before after =>
      [
        ("bid_id", Json.encode bid),
        ("listing_id", Json.encode listing),
        ("from", Json.encode before),
        ("to", Json.encode after)
      ]
  | bidSelected bid listing setAside =>
      [
        ("bid_id", Json.encode bid),
        ("listing_id", Json.encode listing),
        ("set_aside", Json.encode setAside)
      ]
  | askPlaced ask listing =>
      [
        ("ask_id", Json.encode ask),
        ("listing_id", Json.encode listing)
      ]
  | askStatusChanged ask listing before after =>
      [
        ("ask_id", Json.encode ask),
        ("listing_id", Json.encode listing),
        ("from", Json.encode before),
        ("to", Json.encode after)
      ]
  | askRevised ask listing =>
      [
        ("ask_id", Json.encode ask),
        ("listing_id", Json.encode listing)
      ]

/-- The names of the fields of each type of change. -/
def fieldsOf : List (String × List String) :=
  [
    ("instrument_created", ["instrument_id", "issuer_id"]),
    ("instrument_status_changed", ["instrument_id", "from", "to", "maturity_status"]),
    ("ownership_issued", ["instrument_id", "ownership_id", "owner_id"]),
    ("ownership_transferred",
      ["instrument_id", "ownership_id", "from_owner_id",
        "to_owner_id", "reason"]),
    ("listing_opened", ["listing_id", "instrument_id", "seller_company_id"]),
    ("listing_status_changed", ["listing_id", "from", "to"]),
    ("bid_placed", ["bid_id", "listing_id", "bidder_company_id"]),
    ("bid_status_changed", ["bid_id", "listing_id", "from", "to"]),
    ("bid_selected", ["bid_id", "listing_id", "set_aside"]),
    ("ask_placed", ["ask_id", "listing_id"]),
    ("ask_status_changed", ["ask_id", "listing_id", "from", "to"]),
    ("ask_revised", ["ask_id", "listing_id"])
  ]

/-- The field of a name as a value of a vocabulary. Inside a change an object whose only
member is the word may also hold an empty object.
-/
def readWord {α : Type} [Vocabulary α] (r : Json.Record) (name : String) : Option α :=
  match r.get name with
  | .obj [(s, .obj [])] => Vocabulary.ofWord? s
  | j => Json.decode j

/-- The change of a type, from its fields. -/
def ofFields? (type : String) (r : Json.Record) : Option Happening := do
  match type with
  | "instrument_created" =>
      return .instrumentCreated (← r.read "instrument_id") (← r.read "issuer_id")
  | "instrument_status_changed" =>
      return .instrumentStatusChanged (← r.read "instrument_id") (← readWord r "from")
        (← readWord r "to") (← readWord r "maturity_status")
  | "ownership_issued" =>
      return .ownershipIssued (← r.read "instrument_id") (← r.read "ownership_id")
        (← r.read "owner_id")
  | "ownership_transferred" =>
      return .ownershipTransferred (← r.read "instrument_id") (← r.read "ownership_id")
        (← r.read "from_owner_id") (← r.read "to_owner_id") (← readWord r "reason")
  | "listing_opened" =>
      return .listingOpened (← r.read "listing_id") (← r.read "instrument_id")
        (← r.read "seller_company_id")
  | "listing_status_changed" =>
      return .listingStatusChanged (← r.read "listing_id") (← readWord r "from")
        (← readWord r "to")
  | "bid_placed" =>
      return .bidPlaced (← r.read "bid_id") (← r.read "listing_id")
        (← r.read "bidder_company_id")
  | "bid_status_changed" =>
      return .bidStatusChanged (← r.read "bid_id") (← r.read "listing_id")
        (← readWord r "from") (← readWord r "to")
  | "bid_selected" =>
      return .bidSelected (← r.read "bid_id") (← r.read "listing_id")
        (← r.read "set_aside")
  | "ask_placed" =>
      return .askPlaced (← r.read "ask_id") (← r.read "listing_id")
  | "ask_status_changed" =>
      return .askStatusChanged (← r.read "ask_id") (← r.read "listing_id")
        (← readWord r "from") (← readWord r "to")
  | "ask_revised" =>
      return .askRevised (← r.read "ask_id") (← r.read "listing_id")
  | _ => none

/-- In JSON a change is a record with its type in front. -/
instance : Json.Codec Happening where
  encode h := .obj (("type", .str h.name) :: h.members)
  decode
    | .obj members => do
        let .str type ← members.lookup "type" | none
        ofFields? type members
    | .arr (.str type :: items) => do
        let r ← Json.wholeRecord? (← fieldsOf.lookup type) (.arr items)
        ofFields? type r
    | _ => none

end Happening

namespace Event

/-- The type that a flat event gives: its name, or its place in the list of types. -/
def typeOf? : Json → Option String
  | .str type => some type
  | .int n => if 0 ≤ n then (Happening.fieldsOf[n.toNat]?).map Prod.fst else none
  | _ => none

/-- In JSON an event is one flat object: its identifier and time beside the change. -/
instance : Json.Codec Event where
  encode e :=
    .obj
      (("id", Json.encode e.id) :: ("occurred_at", Json.encode e.occurredAt)
        :: ("type", .str e.happening.name) :: e.happening.members)
  decode
    | .obj members => do
        let r : Json.Record := members
        return {
          id := ← r.read "id",
          occurredAt := ← r.read "occurred_at",
          happening := ← Happening.ofFields? (← typeOf? (r.get "type")) r
        }
    | _ => none

end Event

end DebtMarket
