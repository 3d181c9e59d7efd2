import Mathlib.Data.List.Nodup
import DebtMarket.Event.Wire
import DebtMarket.Money

/-! The order of members in JSON. An object is read by the names of its members, so what a value
decodes to does not depend on the order in which its objects list them, at any depth.
-/

namespace DebtMarket.Json

-----------------------------------------------------------------------------------------
-- Members in another order
-----------------------------------------------------------------------------------------

/-- A value as another one, up to the order of members in the objects that it is or holds. -/
inductive Reordered : Json → Json → Prop where
  | refl (j : Json) : Reordered j j
  | trans {j j' j'' : Json} (first : Reordered j j') (second : Reordered j' j'')
    : Reordered j j''
  /-- The members of an object change their places if no two have one name. -/
  | members {r r' : Record} (distinct : (r.map Prod.fst).Nodup) (order : r.Perm r')
    : Reordered (.obj r) (.obj r')
  /-- One member of an object is reordered. -/
  | member {older younger : Record} {name : String} {j j' : Json} (inside : Reordered j j')
    : Reordered (.obj (older ++ (name, j) :: younger)) (.obj (older ++ (name, j') :: younger))
  /-- One item of an array is reordered. -/
  | item {older younger : List Json} {j j' : Json} (inside : Reordered j j')
    : Reordered (.arr (older ++ j :: younger)) (.arr (older ++ j' :: younger))

namespace Reordered

variable {j j' : Json}

/-- What does not look into objects and arrays does not see their order. -/
theorem constant {β : Sort*} {f : Json → β} (order : Reordered j j')
    (objects : ∀ r r', f (.obj r) = f (.obj r')) (arrays : ∀ l l', f (.arr l) = f (.arr l'))
    : f j = f j' := by
  induction order with
  | refl j => rfl
  | trans _ _ first second => exact first.trans second
  | members => exact objects _ _
  | member => exact objects _ _
  | item => exact arrays _ _

theorem eq_null_iff (order : Reordered j j') : (j = .null) = (j' = .null) :=
  order.constant (f := fun j => j = .null) (by simp) (by simp)

/-- No order tells an object without members from another one. -/
theorem eq_empty_iff (order : Reordered j j') : (j = .obj []) = (j' = .obj []) := by
  induction order with
  | refl j => rfl
  | trans _ _ first second => exact first.trans second
  | members distinct order =>
      rw [Json.obj.injEq, Json.obj.injEq, ← List.length_eq_zero_iff, order.length_eq,
        List.length_eq_zero_iff]
  | member => simp
  | item => simp

end Reordered

-----------------------------------------------------------------------------------------
-- Records alike
-----------------------------------------------------------------------------------------

/-- Two records with the same members up to order, inside the members too. -/
def Alike (r r' : Record) : Prop :=
  ∀ name, Option.Rel Reordered (r.lookup name) (r'.lookup name)

namespace Alike

variable {r r' r'' : Record}

theorem optionRel_refl (found : Option Json) : Option.Rel Reordered found found := by
  cases found with
  | none => exact .none
  | some j => exact .some (.refl j)

theorem refl (r : Record) : Alike r r :=
  fun _ => optionRel_refl _

theorem trans (h : Alike r r') (h' : Alike r' r'') : Alike r r'' := by
  intro name
  have first := h name
  have second := h' name
  revert first second
  generalize r.lookup name = o
  generalize r'.lookup name = o'
  generalize r''.lookup name = o''
  rintro (first | -) (second | -)
  · exact .some (first.trans second)
  · exact .none

theorem cons (h : Alike r r') (name : String) {j j' : Json} (inside : Reordered j j')
    : Alike ((name, j) :: r) ((name, j') :: r') := by
  intro wanted
  rw [List.lookup_cons, List.lookup_cons]
  cases wanted == name with
  | true => exact .some inside
  | false => exact h wanted

theorem append (h : Alike r r') (older : Record) : Alike (older ++ r) (older ++ r') := by
  induction older with
  | nil => exact h
  | cons m older ih => exact ih.cons m.1 (.refl m.2)

end Alike

/-- Distinct names are found alike in whatever order they come, by induction on the order. -/
theorem lookup_of_perm {r r' : Record} (distinct : (r.map Prod.fst).Nodup) (order : r.Perm r')
    (name : String)
    : r.lookup name = r'.lookup name := by
  induction order with
  | nil => rfl
  | cons m order ih =>
      rw [List.lookup_cons, List.lookup_cons, ih (List.nodup_cons.1 distinct).2]
  | swap m m' r =>
      have other : m.1 ≠ m'.1 := fun same => by simp [same] at distinct
      rw [List.lookup_cons, List.lookup_cons, List.lookup_cons, List.lookup_cons]
      cases first : name == m.1 with
      | false => rfl
      | true => rw [eq_of_beq first, beq_false_of_ne other]
  | trans order _ ih ih' =>
      rw [ih distinct, ih' ((order.map Prod.fst).nodup_iff.1 distinct)]

theorem alike_of_perm {r r' : Record} (distinct : (r.map Prod.fst).Nodup) (order : r.Perm r')
    : Alike r r' := by
  intro name
  rw [lookup_of_perm distinct order]
  exact Alike.optionRel_refl _

/-- Items beside names are alike if one of them is reordered, by induction on those in front. -/
theorem alike_zip {j j' : Json} (inside : Reordered j j') (names : List String)
    (older younger : List Json)
    : Alike (names.zip (older ++ j :: younger)) (names.zip (older ++ j' :: younger)) := by
  induction older generalizing names with
  | nil =>
      cases names with
      | nil => exact .refl _
      | cons name names => exact (Alike.refl _).cons name inside
  | cons item older ih =>
      cases names with
      | nil => exact .refl _
      | cons name names => exact (ih names).cons name (.refl item)

/-- The fields of a record are alike in every order, by induction on how it came about. -/
theorem record?_reordered {names : List String} {needed : Nat} {j j' : Json} {r : Record}
    (order : Reordered j j') (found : record? names needed j = some r)
    : ∃ r', record? names needed j' = some r' ∧ Alike r r' := by
  induction order generalizing r with
  | refl j => exact ⟨r, found, .refl r⟩
  | trans _ _ first second =>
      obtain ⟨r', found', alike⟩ := first found
      obtain ⟨r'', found'', alike'⟩ := second found'
      exact ⟨r'', found'', alike.trans alike'⟩
  | members distinct order =>
      cases found
      exact ⟨_, rfl, alike_of_perm distinct order⟩
  | @member older younger name j j' inside _ =>
      cases found
      exact ⟨_, rfl, ((Alike.refl younger).cons name inside).append older⟩
  | @item older younger j j' inside _ =>
      have length : (older ++ j' :: younger).length = (older ++ j :: younger).length := by simp
      simp only [record?, Option.ite_none_right_eq_some, length] at found ⊢
      obtain ⟨fits, same⟩ := found
      cases same
      exact ⟨_, ⟨fits, rfl⟩, alike_zip inside names older younger⟩

-----------------------------------------------------------------------------------------
-- Decoders that see no order
-----------------------------------------------------------------------------------------

/-- Types whose decoder does not see the order of members. -/
class Unordered (α : Type) [Codec α] : Prop where
  decode_reordered : ∀ {j j' : Json}, Reordered j j' → (decode j : Option α) = decode j'

export Unordered (decode_reordered)

instance : Unordered String :=
  ⟨fun order => order.constant (fun _ _ => rfl) (fun _ _ => rfl)⟩

instance : Unordered Bool :=
  ⟨fun order => order.constant (fun _ _ => rfl) (fun _ _ => rfl)⟩

instance : Unordered UInt64 :=
  ⟨fun order => order.constant (fun _ _ => rfl) (fun _ _ => rfl)⟩

instance {kind : IdKind} : Unordered (Id kind) :=
  ⟨fun order => order.constant (fun _ _ => rfl) (fun _ _ => rfl)⟩

instance : Unordered Decimal :=
  ⟨fun order => order.constant (fun _ _ => rfl) (fun _ _ => rfl)⟩

instance : Unordered Amount :=
  ⟨fun order => order.constant (fun _ _ => rfl) (fun _ _ => rfl)⟩

instance : Unordered Currency :=
  ⟨fun order => order.constant (fun _ _ => rfl) (fun _ _ => rfl)⟩

instance : Unordered Date :=
  ⟨fun order => order.constant (fun _ _ => rfl) (fun _ _ => rfl)⟩

instance : Unordered Instant :=
  ⟨fun order => order.constant (fun _ _ => rfl) (fun _ _ => rfl)⟩

section

variable {α : Type} [Codec α]

theorem decode_some {j : Json} (present : j ≠ .null)
    : (decode j : Option (Option α)) = (decode j).map some := by
  cases j with
  | null => exact absurd rfl present
  | _ => rfl

instance [Unordered α] : Unordered (Option α) where
  decode_reordered {j j'} order := by
    have null := order.eq_null_iff
    by_cases absent : j = .null
    · rw [absent, ← null.mp absent]
    · have present : j' ≠ .null := fun same => absent (null.mpr same)
      rw [decode_some absent, decode_some present, decode_reordered order]

/-- A list is read item by item, so that only what an item is read as counts. -/
theorem decodeItems_append {older younger : List Json} {j j' : Json}
    (same : (decode j : Option α) = decode j')
    : (decodeItems (older ++ j :: younger) : Option (List α))
      = decodeItems (older ++ j' :: younger) := by
  induction older with
  | nil => simp [decodeItems, same]
  | cons item older ih => simp [decodeItems, ih]

instance [Unordered α] : Unordered (List α) where
  decode_reordered order := by
    induction order with
    | refl j => rfl
    | trans _ _ first second => exact first.trans second
    | members => rfl
    | member => rfl
    | item inside _ => exact decodeItems_append (decode_reordered inside)

end

-----------------------------------------------------------------------------------------
-- Words
-----------------------------------------------------------------------------------------

/-- The text of a word, alone or as the name of the only member of an object, which is empty. -/
def spelled? (empty : Json → Bool) : Json → Option String
  | .str s => some s
  | .obj [(s, j)] => if empty j then some s else none
  | _ => none

section

variable {empty : Json → Bool}

theorem spelled?_of_length {r : Record} (several : r.length ≠ 1)
    : spelled? empty (.obj r) = none := by
  match r with
  | [] => rfl
  | [m] => exact absurd rfl several
  | _ :: _ :: _ => rfl

/-- A word is spelled alike in every order, if what is empty is. -/
theorem spelled?_reordered {j j' : Json} (order : Reordered j j')
    (same : ∀ {j j' : Json}, Reordered j j' → empty j = empty j')
    : spelled? empty j = spelled? empty j' := by
  induction order with
  | refl j => rfl
  | trans _ _ first second => exact first.trans second
  | @members r r' _ order =>
      by_cases single : r.length = 1
      · obtain ⟨m, rfl⟩ := List.length_eq_one_iff.1 single
        rw [List.singleton_perm.1 order]
      · rw [spelled?_of_length single, spelled?_of_length (order.length_eq ▸ single)]
  | @member older younger name j j' inside _ =>
      by_cases single : (older ++ (name, j) :: younger).length = 1
      · have alone : older = [] ∧ younger = [] := by
          simp only [List.length_append, List.length_cons] at single
          exact ⟨List.length_eq_zero_iff.1 (by omega), List.length_eq_zero_iff.1 (by omega)⟩
        rw [alone.1, alone.2]
        exact congrArg (fun b => if b = true then some name else none) (same inside)
      · have length : (older ++ (name, j') :: younger).length ≠ 1 := by simpa using single
        rw [spelled?_of_length single, spelled?_of_length length]
  | item => rfl

variable {α : Type} [Vocabulary α]

theorem decode_word (j : Json)
    : (decode j : Option α) = (spelled? (· == .null) j).bind Vocabulary.ofWord? := by
  simp only [decode, spelled?]
  split
  · rfl
  · rfl
  · next noText noWord =>
      split
      · next s => exact absurd rfl (noText s)
      · next s inside =>
          have filled : inside ≠ .null := by
            rintro rfl
            exact noWord s rfl
          simp [filled]
      · rfl

instance : Unordered α where
  decode_reordered order := by
    rw [decode_word, decode_word, spelled?_reordered order]
    intro j j' inside
    rw [Bool.eq_iff_iff, beq_iff_eq, beq_iff_eq, inside.eq_null_iff]

end

end DebtMarket.Json
