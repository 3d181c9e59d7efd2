import DebtMarket.Proofs.Store.Table

/-! Parts of a table: the records that meet a test. A record is found in a part if it is found
in the table and meets the test; and a record that is put into the table is put into the part,
left out of it, or taken from it, as the record and the one that it replaces meet the test.
-/

namespace DebtMarket

namespace Table

variable {α : Type} {kind : IdKind} [Stored α kind] {t : Table α} {a b : α} {id : Id kind}
  {p : α → Bool}

theorem eq_of_rows {t' : Table α} (h : t.rows = t'.rows) : t = t' := by
  cases t
  cases t'
  exact congrArg Table.mk h

/-- The records of a table that meet a test. -/
def part (t : Table α) (p : α → Bool) : Table α :=
  ⟨t.rows.filter p⟩

theorem Keyed.part (h : t.Keyed) (p : α → Bool) : (t.part p).Keyed :=
  (List.filter_sublist.map Stored.id).nodup h

/-- A record is found in a part if it is found in the table and meets the test. -/
theorem Keyed.find?_part (h : t.Keyed) (id : Id kind)
    : (t.part p).find? id = (t.find? id).filter p := by
  cases found : t.find? id with
  | none =>
      rw [Option.filter_none, find?_eq_none]
      intro a member
      exact find?_eq_none.1 found a (List.mem_of_mem_filter member)
  | some a =>
      obtain rfl := find?_id found
      cases meets : p a with
      | true =>
          rw [Option.filter_some, if_pos meets]
          exact (h.part p).find?_of_mem (List.mem_filter.2 ⟨find?_mem found, meets⟩)
      | false =>
          rw [Option.filter_some, if_neg (by simp [meets]), find?_eq_none]
          intro b member same
          obtain ⟨stored, test⟩ := List.mem_filter.1 member
          have other := h.find?_of_mem stored
          rw [same, found] at other
          cases other
          rw [meets] at test
          cases test

/-- A record meets a test, and so does the one that it replaces, if there is one. -/
structure Meets (t : Table α) (p : α → Bool) (a : α) : Prop where
  test : p a = true
  replaced : ∀ b, t.find? (Stored.id a) = some b → p b = true

/-- A record still meets a test together with what it replaces after another one that does was
put in.
-/
theorem Meets.put (h : t.Meets p b) (first : t.Meets p a) : (t.put a).Meets p b := by
  refine ⟨h.test, fun c found => ?_⟩
  rw [find?_put] at found
  split at found
  · cases found
    exact first.test
  · exact h.replaced c found

/-- A record that meets the test is put into the part when it is put into the table. -/
theorem Keyed.part_put (h : t.Keyed) (meets : t.Meets p a)
    : (t.put a).part p = (t.part p).put a := by
  apply eq_of_rows
  rw [put_rows (t.part p) a, h.find?_part]
  cases found : t.find? (Stored.id a) with
  | none =>
      simp [put_rows_of_none found, meets.test, Table.part]
  | some b =>
      have test := meets.replaced b found
      rw [Table.part, put_rows_of_some found, List.filter_map]
      have unseen : ∀ c ∈ t.rows,
          (p ∘ fun b => if Stored.id b = Stored.id a then a else b) c = p c := by
        intro c member
        simp only [Function.comp]
        split
        · next same =>
            have stored := h.find?_of_mem member
            rw [same] at stored
            rw [meets.test, meets.replaced c stored]
        · rfl
      rw [List.filter_congr unseen]
      simp [test, Table.part]

/-- A record that meets the test does not change a part of records that do not. -/
theorem Keyed.part_put_apart {q : α → Bool} (h : t.Keyed) (meets : t.Meets p a)
    (apart : ∀ b, p b = true → q b = false)
    : (t.put a).part q = t.part q :=
  eq_of_rows
    (h.filter_put (apart a meets.test) fun b found => apart b (meets.replaced b found))

/-- Records that meet the test are put into the part when they are put into the table, by
induction on them.
-/
theorem Keyed.part_puts {records : List α} (h : t.Keyed)
    (meets : ∀ a ∈ records, t.Meets p a)
    : (records.foldl Table.put t).part p = records.foldl Table.put (t.part p) := by
  induction records generalizing t with
  | nil => rfl
  | cons a rest ih =>
      obtain ⟨first, later⟩ := List.forall_mem_cons.1 meets
      rw [List.foldl_cons, List.foldl_cons, ← h.part_put first]
      exact ih (h.put a) fun b member => (later b member).put first

/-- Records that meet the test do not change a part of records that do not, by induction on
them.
-/
theorem Keyed.part_puts_apart {q : α → Bool} {records : List α} (h : t.Keyed)
    (meets : ∀ a ∈ records, t.Meets p a) (apart : ∀ b, p b = true → q b = false)
    : (records.foldl Table.put t).part q = t.part q := by
  induction records generalizing t with
  | nil => rfl
  | cons a rest ih =>
      obtain ⟨first, later⟩ := List.forall_mem_cons.1 meets
      rw [List.foldl_cons, ih (h.put a) fun b member => (later b member).put first]
      exact h.part_put_apart first apart

/-- A record that does not meet the test takes the one that it replaces from the part. -/
theorem part_put_out (fails : p a = false)
    : (t.put a).part p = (t.part p).part fun b => Stored.id b != Stored.id a := by
  refine congrArg Table.mk ?_
  simp only [Table.part, List.filter_filter]
  cases found : t.find? (Stored.id a) with
  | none =>
      rw [put_rows_of_none found, List.filter_append]
      have others : ∀ b ∈ t.rows, p b = ((Stored.id b != Stored.id a) && p b) := by
        intro b member
        simp [find?_eq_none.1 found b member]
      rw [List.filter_congr others]
      simp [fails]
  | some b =>
      rw [put_rows_of_some found]
      induction t.rows with
      | nil => rfl
      | cons c rest ih =>
          by_cases same : Stored.id c = Stored.id a
          · simpa [same, fails] using ih
          · by_cases test : p c = true
            · simpa [same, test] using ih
            · simpa [same, test] using ih

end Table

end DebtMarket
