import Mathlib.Data.List.Nodup

/-! Lists of keyed members. A member is found under its key if no two members share a key, and
what only one member meets is found in it, in whatever order the members come. A list is split
at the place of a member, which another one may take or leave empty, and its members persist in
another list if they keep their places there.
-/

namespace DebtMarket

variable {α κ : Type} {l : List α} {a : α}

/-- A member is the one that is found under its key, if no two members share a key. -/
theorem find?_of_nodup [BEq κ] [LawfulBEq κ] {key : α → κ} (distinct : (l.map key).Nodup)
    (member : a ∈ l)
    : (l.find? fun b => key b == key a) = some a := by
  cases found : l.find? fun b => key b == key a with
  | none =>
      rw [List.find?_eq_none] at found
      exact absurd (beq_self_eq_true _) (found a member)
  | some b =>
      have same : key b = key a := by simpa using List.find?_some found
      rw [List.inj_on_of_nodup_map distinct (List.mem_of_find?_eq_some found) member same]

section Single

variable {p : α → Bool}

/-- If one member at most meets a test, then all that do are the one that is found. -/
theorem filter_eq_find? (single : (l.filter p).length ≤ 1)
    : l.filter p = (l.find? p).toList := by
  rw [← List.head?_filter]
  cases meets : l.filter p with
  | nil => rfl
  | cons a rest =>
      rw [meets, List.length_cons] at single
      rw [List.length_eq_zero_iff.1 (Nat.le_zero.1 (Nat.le_of_succ_le_succ single))]
      rfl

/-- If one member at most meets a test, then it is found exactly if it does. -/
theorem find?_eq_some_of_single (single : (l.filter p).length ≤ 1)
    : l.find? p = some a ↔ a ∈ l ∧ p a = true := by
  rw [← Option.mem_toList, ← filter_eq_find? single, List.mem_filter]

/-- If one member at most meets a test, then the order in which members are tested is all the
same.
-/
theorem find?_of_perm {l' : List α} (single : (l.filter p).length ≤ 1) (order : l'.Perm l)
    : l'.find? p = l.find? p := by
  have same := order.filter p
  have single' : (l'.filter p).length ≤ 1 := same.length_eq ▸ single
  apply Option.ext
  intro a
  rw [find?_eq_some_of_single single', find?_eq_some_of_single single, order.mem_iff]

/-- One member at most meets a test if all members that do have the same key. -/
theorem length_filter_le_one {key : α → κ} (distinct : (l.map key).Nodup)
    (unique : ∀ a ∈ l, ∀ b ∈ l, p a = true → p b = true → key a = key b)
    : (l.filter p).length ≤ 1 := by
  have keys : ((l.filter p).map key).Nodup := (List.filter_sublist.map key).nodup distinct
  match meets : l.filter p with
  | [] => exact Nat.zero_le 1
  | [a] => exact Nat.le_refl 1
  | a :: b :: rest =>
      have first : a ∈ l.filter p := by simp [meets]
      have second : b ∈ l.filter p := by simp [meets]
      rw [List.mem_filter] at first second
      rw [meets] at keys
      have apart := (List.nodup_cons.1 keys).1
      refine absurd ?_ apart
      rw [unique a first.1 b second.1 first.2 second.2]
      exact List.mem_cons_self

end Single

/-- A list is what stands before a place, the member at it, and what stands behind it. -/
theorem split_at {index : Nat} (found : l[index]? = some a)
    : ∃ older younger, l = older ++ a :: younger
        ∧ l.eraseIdx index = older ++ younger
        ∧ ∀ b, l.set index b = older ++ b :: younger := by
  obtain ⟨bound, rfl⟩ := List.getElem?_eq_some_iff.1 found
  refine ⟨l.take index, l.drop (index + 1), ?_, ?_, fun b => ?_⟩
  · simp
  · exact List.eraseIdx_eq_take_drop_succ _ _
  · rw [List.set_eq_take_append_cons_drop, if_pos bound]

/-- Every member of a list is in its place in another one, as what a relation lets it become. -/
def Persists (R : α → α → Prop) (l l' : List α) : Prop :=
  ∀ (index : Nat) (a : α), l[index]? = some a → ∃ a', l'[index]? = some a' ∧ R a a'

variable {R : α → α → Prop} {l' l'' : List α}

theorem persists_refl (refl : ∀ a, R a a) (l : List α) : Persists R l l :=
  fun _ a found => ⟨a, found, refl a⟩

theorem Persists.trans (trans : ∀ {a b c}, R a b → R b c → R a c) (h : Persists R l l')
    (h' : Persists R l' l'')
    : Persists R l l'' := by
  intro index a found
  obtain ⟨b, found, becomes⟩ := h index a found
  obtain ⟨c, found, becomes'⟩ := h' index b found
  exact ⟨c, found, trans becomes becomes'⟩

/-- Members that persist go on to do so when others are added at the end. -/
theorem Persists.append (h : Persists R l l') (more : List α) : Persists R l (l' ++ more) := by
  intro index a found
  obtain ⟨a', kept, becomes⟩ := h index a found
  refine ⟨a', ?_, becomes⟩
  rw [List.getElem?_append_left (List.getElem?_eq_some_iff.1 kept).1]
  exact kept

/-- Members persist when each is replaced in its place. -/
theorem persists_map {f : α → α} (each : ∀ a ∈ l, R a (f a)) : Persists R l (l.map f) := by
  intro index a found
  refine ⟨f a, ?_, each a (List.mem_of_getElem? found)⟩
  rw [List.getElem?_map, found]
  rfl

end DebtMarket
