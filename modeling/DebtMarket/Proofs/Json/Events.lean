import DebtMarket.Event.Wire
import DebtMarket.Proofs.Json.Lossless

/-! The JSON forms of changes and events. A change is told by its type, which decides what else
is asked for; an event has the members of its change beside its own.
-/

namespace DebtMarket

open Json
open Json.Content (settled)

namespace Happening

-----------------------------------------------------------------------------------------
-- Words inside a change
-----------------------------------------------------------------------------------------

section

variable {α : Type} [Vocabulary α] {name : String} {a : α}

/-- The value of a vocabulary that stands inside a change. -/
def readSpelled (j : Json) : Option α :=
  match j with
  | .obj [(s, .obj [])] => Vocabulary.ofWord? s
  | j => decode j

/-- A demand for a member that spells a value. -/
def spells (name : String) (a : α) : Demand where
  name := name
  holds found := readSpelled (found.getD .null) = some a

@[simp]
theorem spells_in {r : Record} : (spells name a).In r ↔ readWord r name = some a :=
  Iff.rfl

theorem readSpelled_eq (j : Json)
    : (readSpelled j : Option α)
      = (spelled? (fun j => j == .null || j == .obj []) j).bind Vocabulary.ofWord? := by
  unfold readSpelled
  split
  · rfl
  · next noEmpty =>
      rw [decode_word]
      simp only [spelled?]
      split
      · rfl
      · next s inside =>
          have filled : inside ≠ .obj [] := by
            rintro rfl
            exact noEmpty s rfl
          simp [filled]
      · rfl

@[simp]
theorem spells_unordered (name : String) (a : α) : (spells name a).Unordered := by
  have same {j j' : Json} (inside : Reordered j j')
      : (j == .null || j == .obj []) = (j' == .null || j' == .obj []) := by
    rw [Bool.eq_iff_iff]
    simp only [Bool.or_eq_true, beq_iff_eq, inside.eq_null_iff, inside.eq_empty_iff]
  intro o o' alike read
  cases alike with
  | none => exact read
  | @some j j' order =>
      have read : readSpelled j = some a := read
      show readSpelled j' = some a
      rw [readSpelled_eq] at read ⊢
      rw [← spelled?_reordered order same]
      exact read

/-- What a change spells is read back from its word. -/
@[simp]
theorem readWord_self [Vocabulary.Lawful α] {r : Record}
    : readWord ((name, encode a) :: r) name = some a := by
  rw [readWord, Record.get, List.lookup_cons_self, Option.getD_some]
  exact Vocabulary.ofWord?_word a

@[simp]
theorem readWord_other {other : String} {j : Json} {r : Record} (different : name ≠ other)
    : readWord ((other, j) :: r) name = (readWord r name : Option α) := by
  rw [readWord, Record.get, List.lookup_cons, beq_false_of_ne different]
  rfl

end

-----------------------------------------------------------------------------------------
-- Changes
-----------------------------------------------------------------------------------------

instance : Content Happening where

/-- What a change asks of the record that it is read from, apart from its type. -/
def demands : Happening → List Demand
  | instrumentCreated instrument issuer =>
      [
        .reads "instrument_id" instrument,
        .reads "issuer_id" issuer
      ]
  | instrumentStatusChanged instrument before after maturity =>
      [
        .reads "instrument_id" instrument,
        spells "from" before,
        spells "to" after,
        spells "maturity_status" maturity
      ]
  | ownershipIssued instrument row owner =>
      [
        .reads "instrument_id" instrument,
        .reads "ownership_id" row,
        .reads "owner_id" owner
      ]
  | ownershipTransferred instrument row fromOwner toOwner reason =>
      [
        .reads "instrument_id" instrument,
        .reads "ownership_id" row,
        .reads "from_owner_id" fromOwner,
        .reads "to_owner_id" toOwner,
        spells "reason" reason
      ]
  | listingOpened listing instrument seller =>
      [
        .reads "listing_id" listing,
        .reads "instrument_id" instrument,
        .reads "seller_company_id" seller
      ]
  | listingStatusChanged listing before after =>
      [
        .reads "listing_id" listing,
        spells "from" before,
        spells "to" after
      ]
  | bidPlaced bid listing bidder =>
      [
        .reads "bid_id" bid,
        .reads "listing_id" listing,
        .reads "bidder_company_id" bidder
      ]
  | bidStatusChanged bid listing before after =>
      [
        .reads "bid_id" bid,
        .reads "listing_id" listing,
        spells "from" before,
        spells "to" after
      ]
  | bidSelected bid listing setAside =>
      [
        .reads "bid_id" bid,
        .reads "listing_id" listing,
        .reads "set_aside" setAside
      ]
  | askPlaced ask listing =>
      [
        .reads "ask_id" ask,
        .reads "listing_id" listing
      ]
  | askStatusChanged ask listing before after =>
      [
        .reads "ask_id" ask,
        .reads "listing_id" listing,
        spells "from" before,
        spells "to" after
      ]
  | askRevised ask listing =>
      [
        .reads "ask_id" ask,
        .reads "listing_id" listing
      ]

/-- A change is read from its type and from the members that it asks for. -/
theorem ofFields?_eq_some {type : String} {r : Record} {h : Happening}
    : ofFields? type r = some h ↔ type = h.name ∧ ∀ d ∈ h.demands, d.In r := by
  constructor
  · intro made
    unfold ofFields? at made
    split at made
    case h_13 => cases made
    all_goals
      simp only [↓bind_eq_some, ↓pure_eq_some] at made
      grind [name, demands, Demand.reads_in, spells_in]
  · rintro ⟨rfl, present⟩
    cases h <;>
      simp only [demands, List.forall_mem_cons, Demand.reads_in, spells_in] at present <;>
      simp [ofFields?, name, present]

theorem demands_unordered (h : Happening) : ∀ d ∈ h.demands, d.Unordered := by
  cases h <;> simp [demands]

theorem demands_members (h : Happening) : h.demands.map Demand.name = h.members.map Prod.fst := by
  cases h <;> rfl

/-- A change is written with all that it asks for, after members of other names. -/
theorem demands_in_members (h : Happening) : ∀ d ∈ h.demands, d.In h.members := by
  cases h <;> simp [demands, members]

/-- No change asks for a member with the name of another one of its event. -/
theorem demands_name (h : Happening) {d : Demand} (asked : d ∈ h.demands)
    : d.name ≠ "type" ∧ d.name ≠ "id" ∧ d.name ≠ "occurred_at" := by
  have listed := List.mem_map_of_mem (f := Demand.name) asked
  generalize d.name = name at listed
  revert name
  cases h <;> simp [demands_members, members]

theorem in_cons {d : Demand} {name : String} {j : Json} {r : Record} (different : d.name ≠ name)
    : d.In ((name, j) :: r) ↔ d.In r := by
  rw [Demand.In, Demand.In, List.lookup_cons, beq_false_of_ne different]

/-- A demand for the type of a change. -/
def typed (type : String) : Demand where
  name := "type"
  holds found := found = some (.str type)

theorem typed_unordered (type : String) : (typed type).Unordered := by
  intro o o' alike read
  cases alike with
  | none => exact read
  | @some j j' order =>
      have same := order.constant (f := fun j => j = .str type) (by simp) (by simp)
      exact congrArg some (same.mp (Option.some.inj read))

theorem decode_obj {r : Record} {h : Happening}
    : decode (.obj r) = some h ↔ ∀ d ∈ typed h.name :: h.demands, d.In r := by
  rw [List.forall_mem_cons]
  show (r.lookup "type" >>= fun _ => _) = some h ↔ r.lookup "type" = some (.str h.name) ∧ _
  rw [bind_eq_some]
  constructor
  · rintro ⟨j, found, made⟩
    split at made
    · obtain ⟨rfl, present⟩ := ofFields?_eq_some.1 made
      exact ⟨found, present⟩
    · cases made
  · rintro ⟨found, present⟩
    exact ⟨_, found, ofFields?_eq_some.2 ⟨rfl, present⟩⟩

/-- The record of a change: an object, or a list of the type and the fields that it has. -/
def found? : Json → Option Record
  | .obj r => some r
  | .arr (.str type :: items) => do
      let r ← wholeRecord? (← fieldsOf.lookup type) (.arr items)
      return ("type", .str type) :: r
  | _ => none

theorem decode_typed (type : String) (r : Record)
    : decode (.obj (("type", .str type) :: r)) = ofFields? type r := by
  refine Option.ext fun h => ?_
  rw [decode_obj, ofFields?_eq_some, List.forall_mem_cons]
  refine and_congr ?_ (forall₂_congr fun d asked => in_cons (h.demands_name asked).1)
  show some (Json.str type) = some (.str h.name) ↔ _
  simp

theorem decode_eq (j : Json)
    : (decode j : Option Happening) = (found? j).bind fun r => decode (.obj r) := by
  unfold found?
  split
  · rfl
  · next type items =>
      simp only [Option.bind_eq_bind, Option.bind_assoc, Option.pure_def, Option.bind_some,
        decode_typed]
      rfl
  · next noObject noList =>
      show (match j with
        | .obj members => _
        | .arr (.str type :: items) => _
        | _ => none) = none
      split
      · exact absurd rfl (noObject _)
      · exact absurd rfl (noList _ _)
      · rfl

/-- The fields of a change are alike in every order, by induction on how it came about. -/
theorem found?_reordered {j j' : Json} {r : Record} (order : Reordered j j')
    (found : found? j = some r)
    : ∃ r', found? j' = some r' ∧ Alike r r' := by
  induction order generalizing r with
  | refl j => exact ⟨r, found, .refl r⟩
  | trans _ _ first second =>
      obtain ⟨r', found', alike⟩ := first found
      obtain ⟨r'', found'', alike'⟩ := second found'
      exact ⟨r'', found'', alike.trans alike'⟩
  | members distinct order =>
      cases found
      exact ⟨_, rfl, alike_of_perm distinct order⟩
  | @member older younger name j j' inside _ =>
      cases found
      exact ⟨_, rfl, ((Alike.refl younger).cons name inside).append older⟩
  | @item older younger j j' inside _ =>
      cases older with
      | nil =>
          cases j with
          | str type =>
              have same := inside.constant (f := fun j => j = .str type) (by simp) (by simp)
              rw [same.mp rfl]
              exact ⟨r, found, .refl r⟩
          | _ => cases found
      | cons first older =>
          cases first with
          | str type =>
              simp only [List.cons_append, found?, bind_eq_some, pure_eq_some] at found ⊢
              obtain ⟨names, known, fields, found, rfl⟩ := found
              obtain ⟨fields', found', alike⟩ := record?_reordered (.item inside) found
              exact ⟨_, ⟨names, known, fields', found', rfl⟩, alike.cons "type" (.refl _)⟩
          | _ => cases found

theorem found?_parts {j : Json} {r : Record} (found : found? j = some r)
    : ∀ m ∈ r, m.2 ∈ j.parts := by
  intro m member
  unfold found? at found
  split at found
  · cases found
    exact List.mem_map_of_mem member
  · simp only [bind_eq_some, pure_eq_some] at found
    obtain ⟨names, -, fields, found, rfl⟩ := found
    rcases List.mem_cons.1 member with rfl | listed
    · exact List.mem_cons_self
    · exact List.mem_cons_of_mem _ (record?_parts found m listed)
  · cases found

/-- The JSON form of a change, by members. -/
def shape : Shape Happening where
  found? := found?
  demands h := typed h.name :: h.demands
  decode_eq := decode_eq
  decode_obj := decode_obj
  found?_reordered := found?_reordered
  found?_parts := found?_parts
  alike {r r' h} alike read := by
    have unordered : ∀ d ∈ typed h.name :: h.demands, d.Unordered :=
      List.forall_mem_cons.2 ⟨typed_unordered h.name, h.demands_unordered⟩
    exact ⟨_, decode_alike decode_obj unordered alike read, rfl⟩
  encoded h _ := by
    refine ⟨_, rfl, List.forall_mem_cons.2 ⟨rfl, fun d asked => ?_⟩⟩
    exact (in_cons (h.demands_name asked).1).2 (h.demands_in_members d asked)
  named h := congrArg (List.cons "type") h.demands_members

end Happening

-----------------------------------------------------------------------------------------
-- Events
-----------------------------------------------------------------------------------------

namespace Event

open Happening (in_cons)

instance : Content Event where

/-- A demand for the type of the change that an event is about: its name, or its place. -/
def typed (type : String) : Demand where
  name := "type"
  holds found := typeOf? (found.getD .null) = some type

theorem typed_unordered (type : String) : (typed type).Unordered := by
  intro o o' alike read
  cases alike with
  | none => exact read
  | some order => exact (order.constant (fun _ _ => rfl) (fun _ _ => rfl)).symm.trans read

/-- What an event asks of the record that it is read from. -/
def demands (e : Event) : List Demand :=
  .reads "id" e.id :: .reads "occurred_at" e.occurredAt :: typed e.happening.name
    :: e.happening.demands

theorem decode_obj {r : Record} {e : Event}
    : decode (.obj r) = some e ↔ ∀ d ∈ e.demands, d.In r := by
  simp only [demands, List.forall_mem_cons, Demand.reads_in]
  show (r.read "id" >>= fun _ => _) = some e ↔ _ ∧ _ ∧ typeOf? (r.get "type") = _ ∧ _
  simp only [↓bind_eq_some, ↓pure_eq_some, Happening.ofFields?_eq_some]
  grind [cases Event]

/-- An event is never read from a bare list, which would need a name for its first item. -/
theorem decode_eq (j : Json)
    : (decode j : Option Event) = (record? [] 1 j).bind fun r => decode (.obj r) := by
  cases j with
  | arr items =>
      have unfit : ¬ (1 ≤ items.length ∧ items.length ≤ ([] : List String).length) := by
        rw [List.length_nil]
        omega
      rw [record?, if_neg unfit]
      rfl
  | _ => rfl

/-- The JSON form of an event, by members. -/
def shape : Shape Event where
  found? := record? [] 1
  demands := demands
  decode_eq := decode_eq
  decode_obj := decode_obj
  alike {r r' e} alike read := by
    have unordered : ∀ d ∈ e.demands, d.Unordered := by
      simp only [demands, List.forall_mem_cons]
      exact ⟨Demand.reads_unordered _ _, Demand.reads_unordered _ _, typed_unordered _,
        e.happening.demands_unordered⟩
    exact ⟨_, decode_alike decode_obj unordered alike read, rfl⟩
  encoded e _ := by
    refine ⟨_, rfl, ?_⟩
    simp only [demands, settled, List.forall_mem_cons]
    refine ⟨by simp, by simp, rfl, fun d asked => ?_⟩
    obtain ⟨type, id, time⟩ := e.happening.demands_name asked
    rw [in_cons id, in_cons time, in_cons type]
    exact e.happening.demands_in_members d asked
  named e := congrArg (fun names => "id" :: "occurred_at" :: "type" :: names)
    e.happening.demands_members

end Event

end DebtMarket
