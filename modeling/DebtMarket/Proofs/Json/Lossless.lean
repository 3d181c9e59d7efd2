import DebtMarket.Proofs.Json.Exact

/-! JSON forms that lose nothing. A value is read back from its encoding; neither the order of
members nor members that are not its own change what is read; and what is read holds no amount
and no currency but those that its members stand for. A record has such a form if its decoder
asks for its members by name, each for itself, and its encoder writes each of them.
-/

namespace DebtMarket.Json

-----------------------------------------------------------------------------------------
-- What a value holds
-----------------------------------------------------------------------------------------

/-- The values of the members or items. -/
def parts : Json → List Json
  | .obj r => r.map Prod.snd
  | .arr items => items
  | _ => []

/-- The names of the members. -/
def names : Json → List String
  | .obj r => r.map Prod.fst
  | _ => []

/-- What a value holds that its JSON form treats in a way of its own. -/
class Content (α : Type) where
  /-- JSON that is passed through; a null there reads as absent. -/
  payload : α → Option Json := fun _ => none
  /-- Equality up to the order of members in what is passed through. -/
  Same : α → α → Prop := Eq
  /-- The value with no sign on a zero. -/
  settled : α → α := id
  amounts : α → List Amount := fun _ => []
  currencies : α → List Currency := fun _ => []

open Content

/-- Types whose JSON form loses nothing and lets in nothing. -/
structure Lossless (α : Type) [Codec α] [Content α] : Prop where
  decode_encode {x : α} (explicit : payload x ≠ some .null)
    : (decode (encode x) : Option α) = some (settled x)
  decode_reordered {j j' : Json} {x : α} (order : Reordered j j') (read : decode j = some x)
    : ∃ x' : α, decode j' = some x' ∧ Same x x'
  decode_filter {r : Record} {x : α}
    : decode (.obj (r.filter fun m => m.1 ∈ (encode x).names)) = some x
      ↔ decode (.obj r) = some x
  amounts_read {j : Json} {x : α} (read : decode j = some x) {a : Amount}
    (held : a ∈ amounts x)
    : 0 < a.decimal.value ∧ ∃ part ∈ j.parts, decode part = some a.decimal
  currencies_read {j : Json} {x : α} (read : decode j = some x) {c : Currency}
    (held : c ∈ currencies x)
    : (c.code.toList.length = 3 ∧ ∀ letter ∈ c.code.toList, letter.isUpper = true)
      ∧ ∃ s, .str s ∈ j.parts ∧ Currency.Spelled s c

-----------------------------------------------------------------------------------------
-- Demands
-----------------------------------------------------------------------------------------

section

variable {α : Type} [Codec α] {name other : String} {j : Json} {r : Record}

@[simp]
theorem read_self : Record.read ((name, j) :: r) name = (decode j : Option α) := by
  rw [Record.read, Record.get, List.lookup_cons_self, Option.getD_some]

@[simp]
theorem read_other (different : name ≠ other)
    : Record.read ((other, j) :: r) name = (Record.read r name : Option α) := by
  rw [Record.read, Record.get, List.lookup_cons, beq_false_of_ne different, Record.read,
    Record.get]

@[simp]
theorem readOr_self {usual : α} : Record.readOr ((name, j) :: r) name usual = decode j := by
  rw [Record.readOr, List.lookup_cons_self]

@[simp]
theorem readOr_other {usual : α} (different : name ≠ other)
    : Record.readOr ((other, j) :: r) name usual = Record.readOr r name usual := by
  rw [Record.readOr, List.lookup_cons, beq_false_of_ne different, Record.readOr]

end

/-- What a value asks of the record that it is read from: a name and what to find there. -/
structure Demand where
  name : String
  holds : Option Json → Prop

namespace Demand

variable {α : Type} [Codec α] {name : String} {a : α} {r r' : Record}

/-- Whether a record has in it what the demand asks for. -/
def In (d : Demand) (r : Record) : Prop :=
  d.holds (r.lookup d.name)

/-- A demand for a member that stands for a value, where an absent one is null. -/
def reads (name : String) (a : α) : Demand where
  name := name
  holds found := decode (found.getD .null) = some a

/-- A demand for a member that stands for a value, where an absent one stands for a default. -/
def readsOr (name : String) (usual a : α) : Demand where
  name := name
  holds
    | none => usual = a
    | some j => decode j = some a

@[simp]
theorem reads_in : (reads name a).In r ↔ r.read name = some a :=
  Iff.rfl

@[simp]
theorem readsOr_in {usual : α} : (readsOr name usual a).In r ↔ r.readOr name usual = some a := by
  unfold In readsOr Record.readOr
  dsimp only
  cases r.lookup name with
  | none => simp
  | some j => rfl

/-- Whether what the demand asks for may be found reordered. -/
def Unordered (d : Demand) : Prop :=
  ∀ {o o' : Option Json}, Option.Rel Reordered o o' → d.holds o → d.holds o'

@[simp]
theorem reads_unordered [Json.Unordered α] (name : String) (a : α)
    : (reads name a).Unordered := by
  intro o o' alike read
  cases alike with
  | none => exact read
  | some order => exact (decode_reordered order).symm.trans read

@[simp]
theorem readsOr_unordered [Json.Unordered α] (name : String) (usual a : α)
    : (readsOr name usual a).Unordered := by
  intro o o' alike read
  cases alike with
  | none => exact read
  | some order => exact (decode_reordered order).symm.trans read

/-- What is passed through is read reordered. -/
theorem reads_payload {payload : Option Json} (alike : Alike r r')
    (read : (reads name payload).In r)
    : ∃ payload', (reads name payload').In r' ∧ Option.Rel Reordered payload payload' := by
  have passed {j : Json} {p : Option Json} (read : decode j = some p) (given : j ≠ .null)
      : p = some j := by
    rw [decode_some given] at read
    exact (Option.some.inj read).symm
  have found := alike name
  rw [reads_in, Record.read, Record.get] at read
  simp only [reads_in, Record.read, Record.get]
  revert found read
  generalize r.lookup name = o
  generalize r'.lookup name = o'
  intro read found
  cases found with
  | none => exact ⟨payload, read, Alike.optionRel_refl payload⟩
  | @some j j' order =>
      have null := order.eq_null_iff
      by_cases absent : j = .null
      · have absent' : j' = .null := null.mp absent
        subst absent absent'
        exact ⟨payload, read, Alike.optionRel_refl payload⟩
      · have present : j' ≠ .null := fun same => absent (null.mpr same)
        rw [passed read absent]
        exact ⟨some j', decode_some present, .some order⟩

/-- Members of other names make no difference to a demand, by induction on the record. -/
theorem in_filter {d : Demand} {names : List String} (known : d.name ∈ names)
    : d.In (r.filter fun m => m.1 ∈ names) ↔ d.In r := by
  have same : (r.filter fun m => m.1 ∈ names).lookup d.name = r.lookup d.name := by
    induction r with
    | nil => rfl
    | cons m r ih =>
        rw [List.filter_cons]
        split
        · rw [List.lookup_cons, List.lookup_cons, ih]
        · next unknown =>
            have other : d.name ≠ m.1 := fun same => by simp [← same, known] at unknown
            rw [ih, List.lookup_cons, beq_false_of_ne other]
  rw [In, In, same]

end Demand

-----------------------------------------------------------------------------------------
-- Records
-----------------------------------------------------------------------------------------

/-- The fields of a record are parts of it. -/
theorem record?_parts {names : List String} {needed : Nat} {j : Json} {r : Record}
    (found : record? names needed j = some r)
    : ∀ m ∈ r, m.2 ∈ j.parts := by
  intro m member
  cases j with
  | obj members =>
      cases found
      exact List.mem_map_of_mem member
  | arr items =>
      simp only [record?, Option.ite_none_right_eq_some] at found
      obtain ⟨-, same⟩ := found
      cases same
      exact (List.of_mem_zip member).2
  | _ => cases found

/-- A JSON form by members: how a record is found in JSON, and what each value asks of the record
that it is read from and is written with.
-/
structure Shape (α : Type) [Codec α] [Content α] where
  found? : Json → Option Record
  demands : α → List Demand
  decode_eq : ∀ j, (decode j : Option α) = (found? j).bind fun r => decode (.obj r) := by
    exact fun _ => rfl
  decode_obj : ∀ {r : Record} {x : α}, decode (.obj r) = some x ↔ ∀ d ∈ demands x, d.In r
  found?_reordered : ∀ {j j' : Json} {r : Record}, Reordered j j' → found? j = some r
      → ∃ r', found? j' = some r' ∧ Alike r r' := by
    exact record?_reordered
  found?_parts : ∀ {j : Json} {r : Record}, found? j = some r → ∀ m ∈ r, m.2 ∈ j.parts := by
    exact record?_parts
  alike : ∀ {r r' : Record} {x : α}, Alike r r' → decode (.obj r) = some x
    → ∃ x' : α, decode (.obj r') = some x' ∧ Same x x'
  encoded : ∀ x : α, payload x ≠ some .null
    → ∃ r, encode x = .obj r ∧ ∀ d ∈ demands (settled x), d.In r
  named : ∀ x : α, (demands x).map Demand.name = (encode x).names := by
    exact fun _ => rfl
  amounts : ∀ x : α, ∀ a ∈ amounts x, ∃ name, .reads name a ∈ demands x := by
    exact fun _ => nofun
  currencies : ∀ x : α, ∀ c ∈ currencies x,
      ∃ name, .reads name c ∈ demands x ∨ .reads name (some c) ∈ demands x := by
    exact fun _ => nofun

namespace Shape

variable {α : Type} [Codec α] [Content α]

/-- What a member stands for is a part of the JSON that it is found in, unless it is null. -/
theorem part_of_read (shape : Shape α) {β : Type} [Codec β] {j : Json} {r : Record}
    {name : String} {b : β} (found : shape.found? j = some r) (read : r.read name = some b)
    (null : (decode .null : Option β) ≠ some b)
    : ∃ part ∈ j.parts, decode part = some b := by
  rw [Record.read, Record.get] at read
  cases at_name : r.lookup name with
  | none =>
      rw [at_name] at read
      exact absurd read null
  | some part =>
      rw [at_name] at read
      obtain ⟨older, younger, rfl, -⟩ := List.lookup_eq_some_iff.1 at_name
      exact ⟨part, shape.found?_parts found (name, part) (by simp), read⟩

/-- A JSON form by members loses nothing. -/
theorem lossless (shape : Shape α) : Lossless α where
  decode_encode {x} explicit := by
    obtain ⟨r, written, present⟩ := shape.encoded x explicit
    rw [written, shape.decode_obj]
    exact present
  decode_reordered {j j' x} order read := by
    rw [shape.decode_eq, Option.bind_eq_some_iff] at read
    obtain ⟨r, found, read⟩ := read
    obtain ⟨r', found', alike⟩ := shape.found?_reordered order found
    obtain ⟨x', read', same⟩ := shape.alike alike read
    exact ⟨x', by rw [shape.decode_eq, found', Option.bind_some, read'], same⟩
  decode_filter {r x} := by
    rw [shape.decode_obj, shape.decode_obj]
    refine forall₂_congr fun d asked => Demand.in_filter ?_
    rw [← shape.named]
    exact List.mem_map_of_mem asked
  amounts_read {j x} read {a} held := by
    rw [shape.decode_eq, Option.bind_eq_some_iff] at read
    obtain ⟨r, found, read⟩ := read
    obtain ⟨name, asked⟩ := shape.amounts x a held
    obtain ⟨part, inside, amount⟩ :=
      shape.part_of_read found (shape.decode_obj.1 read _ asked) nofun
    exact ⟨a.value_pos, part, inside, Amount.decode_eq_some.1 amount⟩
  currencies_read {j x} read {c} held := by
    rw [shape.decode_eq, Option.bind_eq_some_iff] at read
    obtain ⟨r, found, read⟩ := read
    obtain ⟨name, asked | asked⟩ := shape.currencies x c held
    · obtain ⟨part, inside, currency⟩ :=
        shape.part_of_read found (shape.decode_obj.1 read _ asked) nofun
      obtain ⟨s, rfl, spelled⟩ := Currency.decode_eq_some.1 currency
      exact ⟨c.code_capitals, s, inside, spelled⟩
    · obtain ⟨part, inside, currency⟩ :=
        shape.part_of_read found (shape.decode_obj.1 read _ asked) nofun
      have given : part ≠ .null := by
        rintro rfl
        cases currency
      rw [decode_some given, Option.map_eq_some_iff] at currency
      obtain ⟨c', currency, same⟩ := currency
      cases same
      obtain ⟨s, rfl, spelled⟩ := Currency.decode_eq_some.1 currency
      exact ⟨c.code_capitals, s, inside, spelled⟩

end Shape

section

variable {α : Type} [Codec α] {demands : α → List Demand} {r r' : Record} {x : α}

/-- A value whose members may all be found reordered is read from a record alike. -/
theorem decode_alike
    (decode_obj : ∀ {r : Record} {x : α}, decode (.obj r) = some x ↔ ∀ d ∈ demands x, d.In r)
    (unordered : ∀ d ∈ demands x, d.Unordered) (alike : Alike r r')
    (read : decode (.obj r) = some x)
    : decode (.obj r') = some x :=
  decode_obj.2 fun d asked =>
    unordered d asked (alike d.name) (decode_obj.1 read d asked)

/-- A value with something passed through is read from a record alike, with that reordered. -/
theorem decode_alike_payload {name : String} {payload : Option Json}
    {withPayload : Option Json → α}
    (decode_obj : ∀ {r : Record} {x : α}, decode (.obj r) = some x ↔ ∀ d ∈ demands x, d.In r)
    (passed : .reads name payload ∈ demands x)
    (others : ∀ payload', ∀ d ∈ demands (withPayload payload'),
      d = .reads name payload' ∨ d ∈ demands x ∧ d.Unordered)
    (alike : Alike r r') (read : decode (.obj r) = some x)
    : ∃ payload', decode (.obj r') = some (withPayload payload')
        ∧ Option.Rel Reordered payload payload' := by
  rw [decode_obj] at read
  obtain ⟨payload', found, order⟩ := Demand.reads_payload alike (read _ passed)
  refine ⟨payload', decode_obj.2 fun d asked => ?_, order⟩
  obtain rfl | ⟨kept, unordered⟩ := others payload' d asked
  · exact found
  · exact unordered (alike d.name) (read d kept)

/-- A step of a decoder has a result if its first part has one. -/
theorem bind_eq_some {β γ : Type} {o : Option β} {rest : β → Option γ} {c : γ}
    : (o >>= rest) = some c ↔ ∃ b, o = some b ∧ rest b = some c :=
  Option.bind_eq_some_iff

theorem pure_eq_some {β : Type} {b c : β} : (pure b : Option β) = some c ↔ b = c :=
  Option.some_inj

end

end DebtMarket.Json
