import DebtMarket.Text.Digits
import DebtMarket.Json.Codec

/-! Identifiers. An identifier is a number of 128 bits, written as 32 hexadecimal digits
in five groups. An identifier carries the kind of thing that it names, so that one kind is
never taken for another.
-/

namespace DebtMarket

/-- A universally unique identifier. -/
structure Uuid where
  bits : BitVec 128
deriving DecidableEq, Repr

namespace Uuid

/-- The hexadecimal digit of a number below sixteen. -/
def hexChar (n : Nat) : Char :=
  if n < 10 then Char.ofNat (48 + n) else Char.ofNat (87 + n)

/-- The last `count` hexadecimal digits of a number, most significant first. -/
def hexDigits : (count n : Nat) → List Char
  | 0, _ => []
  | count + 1, n => hexDigits count (n / 16) ++ [hexChar (n % 16)]

/-- The 32 digits of an identifier. -/
def digits (u : Uuid) : List Char :=
  hexDigits 32 u.bits.toNat

/-- The lengths of the groups of digits. -/
def groups : List Nat :=
  [8, 4, 4, 4, 12]

/-- The digits cut into groups with a hyphen between two of them. -/
def hyphenated : List Nat → List Char → List Char
  | [], _ => []
  | [_], ds => ds
  | n :: rest, ds => ds.take n ++ '-' :: hyphenated rest (ds.drop n)

/-- The text of an identifier. -/
def text (u : Uuid) : String :=
  String.ofList (hyphenated groups u.digits)

instance : ToString Uuid :=
  ⟨text⟩

/-- The digits of a grouped text, if every group has its length and ends at a hyphen. -/
def ungrouped? : List Nat → List Char → Option (List Char)
  | [], _ => none
  | [n], cs => if cs.length = n then some cs else none
  | n :: rest, cs =>
      match cs.drop n with
      | '-' :: after => (ungrouped? rest after).map (cs.take n ++ ·)
      | _ => none

/-- The number of 32 hexadecimal digits. -/
def ofDigits? (ds : List Char) : Option Uuid :=
  if ds.length = 32 then
    (Text.hexNumber? ds).map fun n => ⟨BitVec.ofNat 128 n⟩
  else none

/-- The identifier of a grouped text or of bare digits. -/
def ofBody? (cs : List Char) : Option Uuid :=
  if cs.length = 32 then ofDigits? cs else (ungrouped? groups cs).bind ofDigits?

/-- The name that identifiers have among uniform resource names. -/
def resourceName : String :=
  "urn:uuid:"

/-- The identifier that a text stands for: grouped or bare digits, grouped digits in
braces, or grouped digits after the resource name, its letters in either case.
-/
def read (s : String) : Option Uuid :=
  let cs := s.toList
  match cs with
  | '\x7b' :: rest =>
      if cs.length = 38 ∧ rest.getLast? = some '\x7d' then
        (ungrouped? groups rest.dropLast).bind ofDigits?
      else none
  | _ =>
      if (cs.take resourceName.length).map Char.toLower = resourceName.toList then
        (ungrouped? groups (cs.drop resourceName.length)).bind ofDigits?
      else ofBody? cs

/-- In JSON an identifier is its text. -/
instance : Json.Codec Uuid where
  encode u := .str u.text
  decode
    | .str s => read s
    | _ => none

end Uuid

/-- The kinds of things that have identifiers. -/
inductive IdKind where
  | instrument
  | listing
  | bid
  | ask
  | ownership
  | company
  | user
  | event
deriving DecidableEq, Repr

/-- An identifier of a thing of one kind. -/
structure Id (kind : IdKind) where
  uuid : Uuid
deriving DecidableEq, Repr

namespace Id

instance {kind : IdKind} : ToString (Id kind) :=
  ⟨fun i => i.uuid.text⟩

instance {kind : IdKind} : Json.Codec (Id kind) where
  encode i := Json.encode i.uuid
  decode j := (Json.decode j).map Id.mk

end Id

/-- Identifiers of debt instruments. -/
abbrev InstrumentId := Id .instrument

/-- Identifiers of listings. -/
abbrev ListingId := Id .listing

/-- Identifiers of bids. -/
abbrev BidId := Id .bid

/-- Identifiers of asks. -/
abbrev AskId := Id .ask

/-- Identifiers of ownership rows. -/
abbrev OwnershipId := Id .ownership

/-- Identifiers of companies. -/
abbrev CompanyId := Id .company

/-- Identifiers of users. -/
abbrev UserId := Id .user

/-- Identifiers of events. -/
abbrev EventId := Id .event

end DebtMarket
