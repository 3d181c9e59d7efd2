import DebtMarket.Proofs.Calendar.Text
import DebtMarket.Proofs.Ident
import DebtMarket.Proofs.Json.Order
import DebtMarket.Proofs.Lists
import DebtMarket.Proofs.Money
import DebtMarket.Status

/-! Types whose values are read back from their JSON form as they are: texts, flags, numbers,
identifiers, money, times and words, and lists and optional values of them. A decimal is read
back with its scale and its sign, unless it is zero, which has no sign then.
-/

namespace DebtMarket

namespace Vocabulary

/-- Vocabularies that hold every value, each with a word of its own. -/
class Lawful (α : Type) [Vocabulary α] : Prop where
  complete : ∀ a : α, a ∈ (members : List α)
  distinct : ((members : List α).map word).Nodup

/-- A value is found by its word. -/
theorem ofWord?_word {α : Type} [Vocabulary α] [Lawful α] (a : α)
    : ofWord? (word a) = some a :=
  find?_of_nodup Lawful.distinct (Lawful.complete a)

instance : Lawful InstrumentStatus :=
  ⟨fun a => by cases a <;> decide, by decide⟩

instance : Lawful MaturityStatus :=
  ⟨fun a => by cases a <;> decide, by decide⟩

instance : Lawful TradingStatus :=
  ⟨fun a => by cases a <;> decide, by decide⟩

instance : Lawful ListingStatus :=
  ⟨fun a => by cases a <;> decide, by decide⟩

instance : Lawful BidStatus :=
  ⟨fun a => by cases a <;> decide, by decide⟩

instance : Lawful AskStatus :=
  ⟨fun a => by cases a <;> decide, by decide⟩

instance : Lawful UserRole :=
  ⟨fun a => by cases a <;> decide, by decide⟩

instance : Lawful AcquisitionReason :=
  ⟨fun a => by cases a <;> decide, by decide⟩

instance : Lawful ExecutionMode :=
  ⟨fun a => by cases a <;> decide, by decide⟩

end Vocabulary

namespace Json

/-- Types whose values are read back from their JSON form, which is not null. -/
class Exact (α : Type) [Codec α] : Prop where
  decode_encode : ∀ a : α, (decode (encode a) : Option α) = some a
  encode_ne_null : ∀ a : α, encode a ≠ .null

export Exact (decode_encode encode_ne_null)

attribute [simp] decode_encode

instance : Exact String :=
  ⟨fun _ => rfl, fun _ => nofun⟩

instance : Exact Bool :=
  ⟨fun _ => rfl, fun _ => nofun⟩

instance : Exact UInt64 where
  decode_encode n := by
    have fits : (0 : Int) ≤ n.toNat ∧ (n.toNat : Int) < Nat.pow 2 64 :=
      ⟨Int.natCast_nonneg _, Int.ofNat_lt.2 n.toNat_lt⟩
    refine (if_pos fits).trans ?_
    simp
  encode_ne_null _ := nofun

instance {kind : IdKind} : Exact (Id kind) :=
  ⟨Id.decode_encode, fun _ => nofun⟩

instance : Exact Amount :=
  ⟨Amount.decode_encode, fun _ => nofun⟩

instance : Exact Currency :=
  ⟨Currency.decode_encode, fun _ => nofun⟩

instance : Exact Date :=
  ⟨Date.decode_encode, fun _ => nofun⟩

instance : Exact Instant :=
  ⟨Instant.decode_encode, fun _ => nofun⟩

instance {α : Type} [Vocabulary α] [Vocabulary.Lawful α] : Exact α :=
  ⟨Vocabulary.ofWord?_word, fun _ => nofun⟩

section

variable {α : Type} [Codec α]

/-- Items that are read back one by one are read back together, by induction on them. -/
theorem decodeItems_encode [Exact α] (items : List α)
    : (decodeItems (items.map encode) : Option (List α)) = some items := by
  induction items with
  | nil => rfl
  | cons a items ih => simp [decodeItems, ih]

instance [Exact α] : Exact (List α) :=
  ⟨decodeItems_encode, fun _ => nofun⟩

/-- An optional value is read back if the value is, since it is not null. -/
@[simp]
theorem decode_encode_option [Exact α] (optional : Option α)
    : (decode (encode optional) : Option (Option α)) = some optional := by
  cases optional with
  | none => rfl
  | some a =>
      show (decode (encode a) : Option (Option α)) = _
      rw [decode_some (encode_ne_null a), decode_encode, Option.map_some]

end

attribute [simp] Decimal.decode_encode

@[simp]
theorem decode_encode_decimal (optional : Option Decimal)
    : (decode (encode optional) : Option (Option Decimal))
      = some (optional.map Decimal.settled) := by
  cases optional with
  | none => rfl
  | some d =>
      show (decode (encode d) : Option (Option Decimal)) = _
      rw [decode_some (show encode d ≠ .null from nofun), Decimal.decode_encode,
        Option.map_some, Option.map_some]

/-- What is passed through is read back unless it is a null, which reads as absent. -/
theorem decode_encode_payload {payload : Option Json} (explicit : payload ≠ some .null)
    : (decode (encode payload) : Option (Option Json)) = some payload := by
  cases payload with
  | none => rfl
  | some j =>
      show (decode j : Option (Option Json)) = _
      rw [decode_some fun same => explicit (same ▸ rfl)]
      rfl

end Json

end DebtMarket
