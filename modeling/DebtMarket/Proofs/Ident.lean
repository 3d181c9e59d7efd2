import Mathlib.Tactic.Ring
import DebtMarket.Ident

/-! The text of an identifier is read back as the identifier: its digits stand for its number,
and neither a brace nor the name of a resource is found in front of them.
-/

namespace DebtMarket

namespace Uuid

open Text

-----------------------------------------------------------------------------------------
-- Hexadecimal digits
-----------------------------------------------------------------------------------------

theorem hexValue?_hexChar {n : Nat} (small : n < 16) : hexValue? (hexChar n) = some n := by
  have each : ∀ k < 16, hexValue? (hexChar k) = some k := by decide
  exact each n small

theorem length_hexDigits (count n : Nat) : (hexDigits count n).length = count := by
  induction count generalizing n with
  | zero => rfl
  | succ count ih => rw [hexDigits, List.length_append, ih, List.length_singleton]

/-- The last digits of a number stand for what is left of it, by induction on them. -/
theorem hexNumber?_hexDigits (count n : Nat)
    : hexNumber? (hexDigits count n) = some (n % 16 ^ count) := by
  induction count generalizing n with
  | zero => simp [hexNumber?, hexDigits, Nat.mod_one]
  | succ count ih =>
      have leading := ih (n / 16)
      rw [hexNumber?] at leading
      rw [hexNumber?, hexDigits, List.foldlM_append, leading]
      have joined : 16 * (n / 16 % 16 ^ count) + n % 16 = n % 16 ^ (count + 1) := by
        rw [pow_succ', Nat.mod_mul]
        omega
      simp [hexValue?_hexChar (Nat.mod_lt n (by decide)), joined]

/-- Every digit of a number is that of a number below sixteen, by induction on them. -/
theorem mem_hexDigits {count n : Nat} {c : Char} (member : c ∈ hexDigits count n)
    : ∃ k < 16, c = hexChar k := by
  induction count generalizing n with
  | zero => cases member
  | succ count ih =>
      rw [hexDigits, List.mem_append, List.mem_singleton] at member
      rcases member with earlier | rfl
      · exact ih earlier
      · exact ⟨n % 16, Nat.mod_lt n (by decide), rfl⟩

theorem ofDigits?_digits (u : Uuid) : ofDigits? u.digits = some u := by
  have small : u.bits.toNat < 16 ^ 32 := u.bits.isLt.trans_eq (by decide)
  rw [ofDigits?, digits, if_pos (length_hexDigits 32 _), hexNumber?_hexDigits,
    Nat.mod_eq_of_lt small, Option.map_some, BitVec.ofNat_toNat, BitVec.setWidth_eq]

-----------------------------------------------------------------------------------------
-- Groups
-----------------------------------------------------------------------------------------

/-- Digits cut into groups are put together again, by induction on the groups. -/
theorem ungrouped?_hyphenated {groups : List Nat} {ds : List Char} (present : groups ≠ [])
    (fits : ds.length = groups.sum)
    : ungrouped? groups (hyphenated groups ds) = some ds := by
  induction groups, ds using hyphenated.induct with
  | case1 ds => exact absurd rfl present
  | case2 n ds =>
      rw [hyphenated, ungrouped?, if_pos (by simpa using fits)]
  | case3 n rest ds several ih =>
      have left : (ds.drop n).length = rest.sum := by
        rw [List.length_drop, fits, List.sum_cons]
        omega
      have first : (ds.take n).length = n := by
        rw [List.length_take, fits, List.sum_cons]
        omega
      have tail := ih several left
      rw [hyphenated, ungrouped?, List.drop_left' first, List.take_left' first]
      · simp [tail]
      · exact several
      · exact several

/-- The text of an identifier starts with a hexadecimal digit. -/
theorem hyphenated_digits (u : Uuid)
    : ∃ k < 16, ∃ more, hyphenated groups u.digits = hexChar k :: more
        ∧ more.length = 35 := by
  have count := length_hexDigits 32 u.bits.toNat
  have member : ∀ c ∈ hexDigits 32 u.bits.toNat, ∃ k < 16, c = hexChar k :=
    fun _ => mem_hexDigits
  rw [digits]
  generalize hexDigits 32 u.bits.toNat = ds at count member
  cases ds with
  | nil => cases count
  | cons c more =>
      obtain ⟨k, small, rfl⟩ := member c List.mem_cons_self
      refine ⟨k, small, _, rfl, ?_⟩
      simp only [List.length_cons] at count
      simp [hyphenated]
      omega

/-- The text of an identifier is read back. -/
theorem read_text (u : Uuid) : read u.text = some u := by
  obtain ⟨k, small, more, text, length⟩ := u.hyphenated_digits
  have grouped : ungrouped? groups (hyphenated groups u.digits) = some u.digits :=
    ungrouped?_hyphenated (by decide) (length_hexDigits 32 _)
  have body : ofBody? (hexChar k :: more) = some u := by
    rw [text] at grouped
    rw [ofBody?, if_neg (by simp [length]), grouped, Option.bind_some, ofDigits?_digits]
  have other : ∀ k < 16, hexChar k ≠ '\x7b' ∧ (hexChar k).toLower ≠ 'u' := by decide
  obtain ⟨brace, resource⟩ := other k small
  rw [read, Uuid.text, String.toList_ofList, text]
  split
  · next same => exact absurd (List.cons.inj same).1 brace
  · rw [if_neg, body]
    intro same
    have first := congrArg List.head? same
    exact absurd (Option.some.inj first) resource

theorem decode_encode (u : Uuid) : (Json.decode (Json.encode u) : Option Uuid) = some u :=
  u.read_text

end Uuid

namespace Id

/-- Identifiers go through JSON as they are. -/
theorem decode_encode {kind : IdKind} (i : Id kind)
    : (Json.decode (Json.encode i) : Option (Id kind)) = some i := by
  show (Json.decode (Json.encode i.uuid)).map mk = _
  rw [Uuid.decode_encode]
  rfl

end Id

end DebtMarket
