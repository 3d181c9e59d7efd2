import DebtMarket.Instrument

/-! Instruments, their terms and updates in JSON. -/

namespace DebtMarket

namespace InstrumentTerms

/-- The names of the fields, in order. -/
def fields : List String :=
  ["name", "face_value", "currency", "maturity_date", "maturity_payment",
    "public_payload"]

/-- In JSON terms are a record. -/
instance : Json.Codec InstrumentTerms where
  encode t :=
    .obj
      [
        ("name", Json.encode t.name),
        ("face_value", Json.encode t.faceValue),
        ("currency", Json.encode t.currency),
        ("maturity_date", Json.encode t.maturityDate),
        ("maturity_payment", Json.encode t.maturityPayment),
        ("public_payload", Json.encode t.publicPayload)
      ]
  decode j := do
    let r ← Json.wholeRecord? fields j
    return {
      name := ← r.read "name",
      faceValue := ← r.read "face_value",
      currency := ← r.read "currency",
      maturityDate := ← r.read "maturity_date",
      maturityPayment := ← r.read "maturity_payment",
      publicPayload := ← r.read "public_payload"
    }

end InstrumentTerms

namespace DraftUpdate

/-- The names of the fields, in order. -/
def fields : List String :=
  ["name", "face_value", "currency", "maturity_date", "maturity_payment",
    "public_payload"]

/-- In JSON an update is a record in which absent fields are null. -/
instance : Json.Codec DraftUpdate where
  encode u :=
    .obj
      [
        ("name", Json.encode u.name),
        ("face_value", Json.encode u.faceValue),
        ("currency", Json.encode u.currency),
        ("maturity_date", Json.encode u.maturityDate),
        ("maturity_payment", Json.encode u.maturityPayment),
        ("public_payload", Json.encode u.publicPayload)
      ]
  decode j := do
    let r ← Json.wholeRecord? fields j
    return {
      name := ← r.read "name",
      faceValue := ← r.read "face_value",
      currency := ← r.read "currency",
      maturityDate := ← r.read "maturity_date",
      maturityPayment := ← r.read "maturity_payment",
      publicPayload := ← r.read "public_payload"
    }

end DraftUpdate

namespace Instrument

/-- The names of the fields apart from the revision, in order. -/
def fields : List String :=
  ["id", "issuer_id", "created_by", "name", "face_value", "currency", "maturity_date",
    "maturity_payment", "public_payload", "instrument_status", "maturity_status",
    "trading_status"]

/-- In JSON an instrument is a record. -/
instance : Json.Codec Instrument where
  encode x :=
    .obj
      ([
        ("id", Json.encode x.id),
        ("issuer_id", Json.encode x.issuer),
        ("created_by", Json.encode x.createdBy),
        ("name", Json.encode x.name),
        ("face_value", Json.encode x.faceValue),
        ("currency", Json.encode x.currency),
        ("maturity_date", Json.encode x.maturityDate),
        ("maturity_payment", Json.encode x.maturityPayment),
        ("public_payload", Json.encode x.publicPayload),
        ("instrument_status", Json.encode x.status),
        ("maturity_status", Json.encode x.maturityStatus),
        ("trading_status", Json.encode x.tradingStatus)
      ] ++ x.revision.encode)
  decode j := do
    let r ← Json.wholeRecord? (fields ++ Revision.fields) j
    return {
      id := ← r.read "id",
      issuer := ← r.read "issuer_id",
      createdBy := ← r.read "created_by",
      name := ← r.read "name",
      faceValue := ← r.read "face_value",
      currency := ← r.read "currency",
      maturityDate := ← r.read "maturity_date",
      maturityPayment := ← r.read "maturity_payment",
      publicPayload := ← r.read "public_payload",
      status := ← r.read "instrument_status",
      maturityStatus := ← r.read "maturity_status",
      tradingStatus := ← r.read "trading_status",
      revision := ← Revision.decode r
    }

/-- The record with what follows from it. -/
def view (x : Instrument) : Json :=
  (Json.encode x).extend
    [("is_editable", .bool x.isEditable), ("is_deleted", .bool x.revision.isDeleted)]

end Instrument

namespace InstrumentTransition

/-- A transition as it is answered. -/
def view (t : InstrumentTransition) : Json :=
  .obj
    [
      ("instrument", t.instrument.view),
      ("previous_status", Json.encode t.previous),
      ("activated", .bool t.activated),
      ("maturity_status", Json.encode t.instrument.maturityStatus)
    ]

end InstrumentTransition

end DebtMarket
