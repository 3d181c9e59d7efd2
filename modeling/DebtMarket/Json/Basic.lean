/-! JSON values. A number is either a whole number that fits in 64 bits or a decimal
approximation of a double, kept as sign, digits and exponent. Objects keep their members
in order; a look-up takes the first member of a name.
-/

namespace DebtMarket

/-- A JSON value. -/
inductive Json where
  | null
  | bool (value : Bool)
  /-- A whole number that fits in 64 bits, signed or unsigned. -/
  | int (value : Int)
  /-- The number `± digits · 10 ^ exponent`. -/
  | real (negative : Bool) (digits : Nat) (exponent : Int)
  | str (value : String)
  | arr (items : List Json)
  | obj (members : List (String × Json))
deriving Inhabited, Repr

namespace Json

mutual
/-- Equality of values is decided member by member. -/
def decEq : (a b : Json) → Decidable (a = b)
  | .null, .null => isTrue rfl
  | .bool a, .bool b =>
      if h : a = b then isTrue (by rw [h]) else isFalse (by simp [h])
  | .int a, .int b =>
      if h : a = b then isTrue (by rw [h]) else isFalse (by simp [h])
  | .real s d e, .real s' d' e' =>
      if h : s = s' ∧ d = d' ∧ e = e' then isTrue (by simp [h]) else isFalse (by simp [h])
  | .str a, .str b =>
      if h : a = b then isTrue (by rw [h]) else isFalse (by simp [h])
  | .arr a, .arr b =>
      match decEqItems a b with
      | isTrue h => isTrue (by rw [h])
      | isFalse h => isFalse (by simp [h])
  | .obj a, .obj b =>
      match decEqMembers a b with
      | isTrue h => isTrue (by rw [h])
      | isFalse h => isFalse (by simp [h])
  | .null, .bool _ | .null, .int _ | .null, .real .. | .null, .str _ | .null, .arr _
  | .null, .obj _ | .bool _, .null | .bool _, .int _ | .bool _, .real .. | .bool _, .str _
  | .bool _, .arr _ | .bool _, .obj _ | .int _, .null | .int _, .bool _ | .int _, .real ..
  | .int _, .str _ | .int _, .arr _ | .int _, .obj _ | .real .., .null | .real .., .bool _
  | .real .., .int _ | .real .., .str _ | .real .., .arr _ | .real .., .obj _
  | .str _, .null | .str _, .bool _ | .str _, .int _ | .str _, .real .. | .str _, .arr _
  | .str _, .obj _ | .arr _, .null | .arr _, .bool _ | .arr _, .int _ | .arr _, .real ..
  | .arr _, .str _ | .arr _, .obj _ | .obj _, .null | .obj _, .bool _ | .obj _, .int _
  | .obj _, .real .. | .obj _, .str _ | .obj _, .arr _ => isFalse (by simp)

/-- Equality of item lists. -/
def decEqItems : (a b : List Json) → Decidable (a = b)
  | [], [] => isTrue rfl
  | [], _ :: _ | _ :: _, [] => isFalse (by simp)
  | a :: as, b :: bs =>
      match decEq a b, decEqItems as bs with
      | isTrue h, isTrue h' => isTrue (by rw [h, h'])
      | isFalse h, _ => isFalse (by simp [h])
      | _, isFalse h => isFalse (by simp [h])

/-- Equality of member lists. -/
def decEqMembers : (a b : List (String × Json)) → Decidable (a = b)
  | [], [] => isTrue rfl
  | [], _ :: _ | _ :: _, [] => isFalse (by simp)
  | (k, a) :: as, (l, b) :: bs =>
      if hk : k = l then
        match decEq a b, decEqMembers as bs with
        | isTrue h, isTrue h' => isTrue (by rw [hk, h, h'])
        | isFalse h, _ => isFalse (by simp [h])
        | _, isFalse h => isFalse (by simp [h])
      else isFalse (by simp [hk])
end

instance : DecidableEq Json := decEq

/-- The member of a name, if the value is an object that has one. -/
def member? (name : String) : Json → Option Json
  | .obj members => members.lookup name
  | _ => none

/-- An object with more members at its end; any other value stays as it is. -/
def extend (j : Json) (more : List (String × Json)) : Json :=
  match j with
  | .obj members => .obj (members ++ more)
  | j => j

end Json

end DebtMarket
