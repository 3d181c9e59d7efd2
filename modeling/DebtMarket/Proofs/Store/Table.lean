import Mathlib.Data.List.Induction
import DebtMarket.Proofs.InPlace
import DebtMarket.Proofs.Lists
import DebtMarket.Store.Access

/-! The theory of tables. A table finds under an identifier the one record of it, a record
that is put in is found from then on and no other record changes, and a record is saved
exactly if its version is greater than the stored one. Searches put what they find in order.
-/

namespace DebtMarket

/-- A list in order of an instant, in which members stay in the order that they had if their
instants do not tell them otherwise.
-/
structure Arranges {α : Type} (time : α → Instant) (rows arranged : List α) : Prop where
  same : arranged.Perm rows
  inOrder : arranged.Pairwise fun a b => time a ≤ time b
  stable : ∀ a b, [a, b].Sublist rows → time a ≤ time b → [a, b].Sublist arranged

theorem arranges_inOrderOf {α : Type} (time : α → Instant) (rows : List α)
    : Arranges time rows (inOrderOf time rows) := by
  have trans (a b c : α) (earlier : decide (time a ≤ time b) = true)
      (later : decide (time b ≤ time c) = true)
      : decide (time a ≤ time c) = true :=
    decide_eq_true (Int.le_trans (of_decide_eq_true earlier) (of_decide_eq_true later))
  have total (a b : α)
      : (decide (time a ≤ time b) || decide (time b ≤ time a)) = true := by
    rw [Bool.or_eq_true, decide_eq_true_iff, decide_eq_true_iff]
    exact Int.le_total _ _
  constructor
  · exact List.mergeSort_perm _ _
  · exact (List.pairwise_mergeSort trans total rows).imp of_decide_eq_true
  · intro a b before earlier
    exact List.pair_sublist_mergeSort trans total (decide_eq_true earlier) before

/-- What is in order already is left as it is. -/
theorem inOrderOf_of_pairwise {α : Type} {time : α → Instant} {rows : List α}
    (inOrder : rows.Pairwise fun a b => time a ≤ time b)
    : inOrderOf time rows = rows :=
  List.mergeSort_of_pairwise (inOrder.imp decide_eq_true)

namespace Table

variable {α : Type} {kind : IdKind} [Stored α kind] {t t' : Table α} {a b : α}
  {id : Id kind}

/-- The number of changes that a record has seen, its creation included. -/
def version (a : α) : Nat :=
  (Stored.revision a).version.toNat

/-- A sound table has one record of an identifier, and counts versions from one. -/
structure Sound (t : Table α) : Prop where
  unique : (t.rows.map Stored.id).Nodup
  positive : ∀ a ∈ t.rows, 0 < version a

theorem sound_empty : (empty : Table α).Sound :=
  ⟨List.nodup_nil, fun _ member => absurd member List.not_mem_nil⟩

/-- No two records of a table share an identifier, whatever their versions are. -/
def Keyed (t : Table α) : Prop :=
  (t.rows.map Stored.id).Nodup

theorem Sound.keyed (h : t.Sound) : t.Keyed :=
  h.unique

-----------------------------------------------------------------------------------------
-- Reading
-----------------------------------------------------------------------------------------

theorem find?_id (h : t.find? id = some a) : Stored.id a = id := by
  simpa using List.find?_some h

theorem find?_mem (h : t.find? id = some a) : a ∈ t.rows :=
  List.mem_of_find?_eq_some h

theorem get?_eq_some : t.get? id = some a ↔ t.find? id = some a ∧ isLive a = true :=
  Option.filter_eq_some_iff

theorem get?_id (h : t.get? id = some a) : Stored.id a = id :=
  find?_id (get?_eq_some.1 h).1

theorem get?_of_absent (h : t.find? id = none) : t.get? id = none := by
  rw [get?, h]
  rfl

theorem find?_eq_none : t.find? id = none ↔ ∀ a ∈ t.rows, Stored.id a ≠ id := by
  simp [find?, List.find?_eq_none]

/-- Every record is the one that is found under its identifier, if no two share one. -/
theorem Keyed.find?_of_mem (h : t.Keyed) (member : a ∈ t.rows)
    : t.find? (Stored.id a) = some a :=
  find?_of_nodup h member

/-- In a sound table every record is the one that is found under its identifier. -/
theorem Sound.find?_of_mem (h : t.Sound) (member : a ∈ t.rows)
    : t.find? (Stored.id a) = some a :=
  h.keyed.find?_of_mem member

/-- Records are searched for in the order of their creation. -/
theorem search_inOrder (t : Table α) (test : α → Bool)
    : (t.search test).Pairwise fun a b =>
        (Stored.revision a).createdAt ≤ (Stored.revision b).createdAt :=
  (arranges_inOrderOf _ _).inOrder

-----------------------------------------------------------------------------------------
-- Putting a record in
-----------------------------------------------------------------------------------------

/-- A record is put in the place of the one of its identifier, or at the end. -/
theorem put_rows (t : Table α) (a : α)
    : (t.put a).rows
      = if (t.find? (Stored.id a)).isSome then
          t.rows.map fun b => if Stored.id b = Stored.id a then a else b
        else t.rows ++ [a] := by
  simp only [put, find?, List.find?_isSome, List.any_eq_true, beq_iff_eq]
  split <;> rfl

theorem put_rows_of_none (h : t.find? (Stored.id a) = none)
    : (t.put a).rows = t.rows ++ [a] := by
  simp [put_rows, h]

theorem put_rows_of_some (h : t.find? (Stored.id a) = some b)
    : (t.put a).rows = t.rows.map fun b => if Stored.id b = Stored.id a then a else b := by
  simp [put_rows, h]

/-- The place of a record keeps its identifier. -/
theorem replaced_id (a b : α)
    : Stored.id (if Stored.id b = Stored.id a then a else b) = Stored.id b := by
  split
  · next same => exact same.symm
  · rfl

/-- The record that was put in is found under its identifier, all others as before. -/
theorem find?_put (t : Table α) (a : α) (id : Id kind)
    : (t.put a).find? id = if id = Stored.id a then some a else t.find? id := by
  cases found : t.find? (Stored.id a) with
  | none =>
      rw [find?, put_rows_of_none found, List.find?_append]
      by_cases same : id = Stored.id a
      · subst same
        rw [find?] at found
        simp [found]
      · simp [same, Ne.symm same, find?]
  | some b =>
      have places : (t.put a).find? id
          = (t.find? id).map fun b => if Stored.id b = Stored.id a then a else b := by
        rw [find?, put_rows_of_some found, List.find?_map]
        refine congrArg (Option.map _) (congrArg (List.find? · t.rows) (funext fun b => ?_))
        simp only [Function.comp, replaced_id]
      rw [places]
      by_cases same : id = Stored.id a
      · subst same
        simp [found, find?_id found]
      · rw [if_neg same]
        cases other : t.find? id with
        | none => rfl
        | some c => simp [find?_id other, same]

theorem get?_put (t : Table α) (a : α) (id : Id kind)
    : (t.put a).get? id
      = if id = Stored.id a then (some a).filter isLive else t.get? id := by
  rw [get?, find?_put]
  split <;> rfl

theorem get?_put_self (live : isLive a = true) : (t.put a).get? (Stored.id a) = some a := by
  rw [get?_put, if_pos rfl]
  exact Option.filter_eq_some_iff.2 ⟨rfl, live⟩

theorem mem_put (h : b ∈ (t.put a).rows) : b = a ∨ b ∈ t.rows := by
  rw [put_rows] at h
  split at h
  · obtain ⟨c, member, rfl⟩ := List.mem_map.1 h
    split
    · exact .inl rfl
    · exact .inr member
  · simpa [or_comm] using h

theorem get?_put_other (other : Stored.id a ≠ id) : (t.put a).get? id = t.get? id := by
  rw [get?_put, if_neg (Ne.symm other)]

/-- What is found after a record was put in is this record, or was found before under an
identifier that is not its own.
-/
theorem of_get?_put (h : (t.put b).get? id = some a)
    : a = b ∨ Stored.id b ≠ id ∧ t.get? id = some a := by
  rw [get?_put] at h
  split at h
  · exact .inl (Option.some.inj (Option.filter_eq_some_iff.1 h).1).symm
  · next other => exact .inr ⟨Ne.symm other, h⟩

theorem find?_put_self (t : Table α) (a : α) : (t.put a).find? (Stored.id a) = some a := by
  rw [find?_put, if_pos rfl]

theorem find?_put_other (other : Stored.id a ≠ id) : (t.put a).find? id = t.find? id := by
  rw [find?_put, if_neg (Ne.symm other)]

/-- Records of different identifiers that are put in are all found afterwards, by induction
on them.
-/
theorem find?_puts_mem {records : List α} (once : (records.map Stored.id).Nodup)
    (member : a ∈ records)
    : (records.foldl put t).find? (Stored.id a) = some a := by
  induction records using List.reverseRecOn with
  | nil => cases member
  | append_singleton earlier last ih =>
      rw [List.map_append, List.nodup_append] at once
      obtain ⟨once, -, apart⟩ := once
      rw [List.foldl_append, List.foldl_cons, List.foldl_nil]
      rcases List.mem_append.1 member with member | new
      · have other := apart _ (List.mem_map_of_mem member) _ (List.mem_singleton_self _)
        rw [find?_put_other (Ne.symm other)]
        exact ih once member
      · rw [List.mem_singleton.1 new, find?_put_self]

/-- Records of other identifiers that are put in do not change what is found, by induction
on them.
-/
theorem find?_puts_other {records : List α} (other : ∀ b ∈ records, Stored.id b ≠ id)
    : (records.foldl put t).find? id = t.find? id := by
  induction records generalizing t with
  | nil => rfl
  | cons b rest ih =>
      obtain ⟨here, later⟩ := List.forall_mem_cons.1 other
      rw [List.foldl_cons, ih later, find?_put_other here]

theorem get?_puts_other {records : List α} (other : ∀ b ∈ records, Stored.id b ≠ id)
    : (records.foldl put t).get? id = t.get? id := by
  rw [get?, get?, find?_puts_other other]

/-- What is found after several records were put in is one of them, or was found before
under an identifier that none of them has.
-/
theorem of_get?_puts {records : List α} (h : (records.foldl put t).get? id = some a)
    : a ∈ records ∨ (∀ b ∈ records, Stored.id b ≠ id) ∧ t.get? id = some a := by
  induction records generalizing t with
  | nil => exact .inr ⟨fun _ member => absurd member List.not_mem_nil, h⟩
  | cons b rest ih =>
      rcases ih h with member | ⟨later, before⟩
      · exact .inl (List.mem_cons_of_mem b member)
      · rcases of_get?_put before with rfl | ⟨here, before⟩
        · exact .inl List.mem_cons_self
        · exact .inr ⟨List.forall_mem_cons.2 ⟨here, later⟩, before⟩

/-- A record stays when another one is put in, unless that takes its place. -/
theorem exists_put (member : b ∈ t.rows) (a : α)
    : ∃ c ∈ (t.put a).rows, c = b ∨ c = a ∧ Stored.id a = Stored.id b := by
  rw [put_rows]
  split
  · refine ⟨_, List.mem_map_of_mem member, ?_⟩
    split
    · next same => exact .inr ⟨rfl, same.symm⟩
    · exact .inl rfl
  · exact ⟨b, List.mem_append_left _ member, .inl rfl⟩

/-- A record stays when several others are put in, unless one of them takes its place: by
induction on them.
-/
theorem exists_puts {records : List α} (member : b ∈ t.rows)
    : ∃ c ∈ (records.foldl put t).rows, c = b ∨ c ∈ records ∧ Stored.id c = Stored.id b := by
  induction records generalizing t b with
  | nil => exact ⟨b, member, .inl rfl⟩
  | cons a rest ih =>
      obtain ⟨c, kept, here⟩ := exists_put member a
      obtain ⟨last, stored, later⟩ := ih kept
      refine ⟨last, stored, ?_⟩
      rcases later with rfl | ⟨mine, same⟩
      · rcases here with rfl | ⟨rfl, same⟩
        · exact .inl rfl
        · exact .inr ⟨List.mem_cons_self, same⟩
      · rcases here with rfl | ⟨rfl, taken⟩
        · exact .inr ⟨List.mem_cons_of_mem a mine, same⟩
        · exact .inr ⟨List.mem_cons_of_mem c mine, same.trans taken⟩

/-- A record that is put in the place of another one leaves the identifiers as they are. -/
theorem put_ids_of_some (h : t.find? (Stored.id a) = some b)
    : (t.put a).rows.map Stored.id = t.rows.map Stored.id := by
  rw [put_rows_of_some h, List.map_map]
  exact List.map_congr_left fun c _ => replaced_id a c

/-- A new record adds its identifier. -/
theorem put_ids_of_none (h : t.find? (Stored.id a) = none)
    : (t.put a).rows.map Stored.id = t.rows.map Stored.id ++ [Stored.id a] := by
  rw [put_rows_of_none h, List.map_append, List.map_singleton]

/-- Records that are put in the place of others leave the identifiers as they are, by
induction on them.
-/
theorem puts_ids {records : List α}
    (stored : ∀ a ∈ records, ∃ b, t.find? (Stored.id a) = some b)
    : (records.foldl put t).rows.map Stored.id = t.rows.map Stored.id := by
  induction records generalizing t with
  | nil => rfl
  | cons a rest ih =>
      obtain ⟨⟨b, found⟩, later⟩ := List.forall_mem_cons.1 stored
      rw [List.foldl_cons, ih, put_ids_of_some found]
      intro c member
      rw [find?_put]
      split
      · exact ⟨a, rfl⟩
      · exact later c member

/-- Records of different identifiers that are put in the place of others take these places, and
all other places stay as they are: by induction on the records.
-/
theorem puts_rows {records : List α} (once : (records.map Stored.id).Nodup)
    (stored : ∀ a ∈ records, ∃ b, t.find? (Stored.id a) = some b)
    : (records.foldl put t).rows
      = t.rows.map fun b => (records.find? fun a => Stored.id a == Stored.id b).getD b := by
  induction records generalizing t with
  | nil => simp
  | cons a rest ih =>
      obtain ⟨apart, once⟩ := List.nodup_cons.1 once
      obtain ⟨⟨c, found⟩, later⟩ := List.forall_mem_cons.1 stored
      have others : rest.find? (fun d => Stored.id d == Stored.id a) = none := by
        rw [List.find?_eq_none]
        intro d member same
        exact apart (List.mem_map.2 ⟨d, member, beq_iff_eq.1 same⟩)
      rw [List.foldl_cons, ih once, put_rows_of_some found, List.map_map]
      · refine List.map_congr_left fun b _ => ?_
        simp only [Function.comp, List.find?_cons]
        by_cases same : Stored.id b = Stored.id a
        · simp [same, others]
        · have other : (Stored.id a == Stored.id b) = false := beq_false_of_ne (Ne.symm same)
          simp [same, other]
      · intro d member
        rw [find?_put]
        split
        · exact ⟨a, rfl⟩
        · exact later d member

/-- Stored records that are put in changed are changed in their places, by a change that leaves
all other records alone.
-/
theorem Keyed.puts_map (h : t.Keyed) {records : List α} {f : α → α}
    (once : (records.map Stored.id).Nodup) (stored : ∀ a ∈ records, a ∈ t.rows)
    (same : ∀ a, Stored.id (f a) = Stored.id a) (other : ∀ a ∈ t.rows, a ∉ records → f a = a)
    : ((records.map f).foldl Table.put t).rows = t.rows.map f := by
  have ids : (records.map f).map Stored.id = records.map Stored.id := by
    rw [List.map_map]
    exact List.map_congr_left fun a _ => same a
  rw [puts_rows (ids ▸ once)]
  · refine List.map_congr_left fun b member => ?_
    have found : (records.map f).find? (fun a => Stored.id a == Stored.id b)
        = (records.find? fun a => Stored.id a == Stored.id b).map f := by
      simp only [List.find?_map, Function.comp_def, same]
    rw [found]
    by_cases changed : b ∈ records
    · rw [find?_of_nodup once changed]
      rfl
    · have absent : records.find? (fun a => Stored.id a == Stored.id b) = none := by
        rw [List.find?_eq_none]
        intro a among equal
        have twin := List.inj_on_of_nodup_map h (stored a among) member (beq_iff_eq.1 equal)
        exact changed (twin ▸ among)
      rw [absent, other b member changed]
      rfl
  · intro a among
    obtain ⟨b, member, rfl⟩ := List.mem_map.1 among
    rw [same]
    exact ⟨b, h.find?_of_mem (stored b member)⟩

/-- No two records share an identifier when one is put in: it takes the place of the record of
its identifier, if there is one.
-/
theorem Keyed.put (h : t.Keyed) (a : α) : (t.put a).Keyed := by
  cases found : t.find? (Stored.id a) with
  | none =>
      rw [Keyed, put_ids_of_none found]
      refine List.nodup_append.2 ⟨h, List.nodup_singleton _, ?_⟩
      intro id member other last same
      obtain ⟨b, stored, rfl⟩ := List.mem_map.1 member
      rw [List.mem_singleton.1 last] at same
      exact find?_eq_none.1 found b stored same
  | some b =>
      rw [Keyed, put_ids_of_some found]
      exact h

/-- No two records share an identifier when several are put in, by induction on them. -/
theorem Keyed.puts (h : t.Keyed) (records : List α) : (records.foldl Table.put t).Keyed := by
  induction records generalizing t with
  | nil => exact h
  | cons a rest ih => exact ih (h.put a)

/-- A table stays sound when a record with a version is put in. -/
theorem Sound.put (h : t.Sound) (versioned : 0 < version a) : (t.put a).Sound := by
  refine ⟨h.keyed.put a, fun b member => ?_⟩
  rcases mem_put member with rfl | stored
  · exact versioned
  · exact h.positive b stored

/-- Records that meet a test are not touched when neither the record that is put in nor the
one it replaces meets it.
-/
theorem Keyed.filter_put (h : t.Keyed) {p : α → Bool} (fails : p a = false)
    (replaced : ∀ b, t.find? (Stored.id a) = some b → p b = false)
    : (t.put a).rows.filter p = t.rows.filter p := by
  cases found : t.find? (Stored.id a) with
  | none => simp [put_rows_of_none found, fails]
  | some b =>
      rw [put_rows_of_some found, List.filter_map]
      have unseen : ∀ c ∈ t.rows,
          (p ∘ fun b => if Stored.id b = Stored.id a then a else b) c = p c := by
        intro c member
        simp only [Function.comp]
        split
        · next same =>
            have stored := h.find?_of_mem member
            rw [same] at stored
            rw [fails, replaced c stored]
        · rfl
      rw [List.filter_congr unseen]
      refine (List.map_congr_left fun c member => ?_).trans (List.map_id _)
      obtain ⟨stored, passes⟩ := List.mem_filter.1 member
      apply if_neg
      intro same
      have found := h.find?_of_mem stored
      rw [same] at found
      rw [replaced c found] at passes
      cases passes

-----------------------------------------------------------------------------------------
-- Saving records
-----------------------------------------------------------------------------------------

/-- The version of a record is checked against the stored one, if there is one. -/
theorem checkVersion_eq_ok
    : t.checkVersion a = .ok ()
      ↔ ∀ b, t.find? (Stored.id a) = some b → version b < version a := by
  rw [checkVersion]
  cases found : t.find? (Stored.id a) with
  | none => simp
  | some b =>
      simp only [Option.some.injEq, forall_eq', version]
      split
      · next h => simpa [UInt64.le_iff_toNat_le] using h
      · next h => simpa [UInt64.le_iff_toNat_le] using h

/-- A record is refused with its version and the stored one, if that is as great. -/
theorem checkVersion_eq_error {e : StoreError}
    : t.checkVersion a = .error e
      ↔ ∃ b, t.find? (Stored.id a) = some b ∧ version a ≤ version b
        ∧ .versionConflict (Stored.noun α) (toString (Stored.id a)) (Stored.revision a).version
            (Stored.revision b).version = e := by
  rw [checkVersion]
  cases found : t.find? (Stored.id a) with
  | none => simp
  | some b =>
      simp only [Option.some.injEq, exists_eq_left', version]
      split
      · next old =>
          rw [UInt64.le_iff_toNat_le] at old
          simp [old]
      · next newer =>
          rw [UInt64.le_iff_toNat_le] at newer
          simp [newer]

/-- A version is checked according to the record that is replaced. -/
theorem checkVersion_congr
    (same : t'.find? (Stored.id a) = t.find? (Stored.id a))
    : t'.checkVersion a = t.checkVersion a := by
  rw [checkVersion, checkVersion, same]

/-- Several records are all accepted or refused alike if each of them is: by induction on them.
-/
theorem checkVersions_congr {records : List α}
    (same : ∀ a ∈ records, t'.checkVersion a = t.checkVersion a)
    : records.forM t'.checkVersion = records.forM t.checkVersion := by
  induction records with
  | nil => rfl
  | cons a rest ih =>
      obtain ⟨here, later⟩ := List.forall_mem_cons.1 same
      simp only [List.forM_eq_forM] at ih ⊢
      rw [List.forM_cons, List.forM_cons, here, ih later]

/-- A record is checked and then put in its place. -/
theorem save_eq (t : Table α) (a : α)
    : t.save a = (do
        t.checkVersion a
        return t.put a) := by
  rw [save, saving, InPlace.apply_get_bind, InPlace.apply_check_bind]
  rfl

/-- Several records are checked against the table as it is, and then put in their places. -/
theorem saveAll_eq (t : Table α) (records : List α)
    : t.saveAll records = (do
        records.forM t.checkVersion
        return records.foldl put t) := by
  rw [saveAll, InPlace.apply, savingAll, InPlace.tried_bind, InPlace.tried_checks checkVersion]
  cases records.forM t.checkVersion with
  | error e => rfl
  | ok u => simp only [InPlace.tried_modifies put]; rfl

theorem saving_whole (a : α) : (saving a).Whole := by
  refine InPlace.reads_get.bind_whole fun t => ?_
  exact (InPlace.reads_check _).bind_whole fun _ => (InPlace.surely_modify _).whole

/-- No record is put in before all have passed the check, so a refusal leaves the table alone. -/
theorem savingAll_whole (records : List α) : (savingAll records).Whole :=
  (InPlace.reads_checks checkVersion records).bind_whole fun _ =>
    (InPlace.surely_modifies put records).whole

/-- A record is saved exactly if its version is greater than the stored one. -/
theorem save_eq_ok
    : t.save a = .ok t'
      ↔ (∀ b, t.find? (Stored.id a) = some b → version b < version a)
        ∧ t' = t.put a := by
  rw [← checkVersion_eq_ok, save_eq]
  cases t.checkVersion a with
  | error e => simp [bind, Except.bind]
  | ok u => simp [bind, Except.bind, pure, Except.pure, eq_comm]

/-- Several records are saved exactly if each has a version greater than the stored one. -/
theorem saveAll_eq_ok {records : List α}
    : t.saveAll records = .ok t'
      ↔ (∀ a ∈ records, ∀ b, t.find? (Stored.id a) = some b → version b < version a)
        ∧ t' = records.foldl put t := by
  have checks : records.forM t.checkVersion = .ok ()
      ↔ ∀ a ∈ records, t.checkVersion a = .ok () := by
    induction records with
    | nil => simp [pure, Except.pure]
    | cons a rest ih =>
        rw [List.forall_mem_cons, ← ih, List.forM_eq_forM, List.forM_cons]
        cases t.checkVersion a with
        | error e => simp [bind, Except.bind]
        | ok u => simp [bind, Except.bind]
  simp only [← checkVersion_eq_ok]
  rw [← checks, saveAll_eq]
  cases records.forM t.checkVersion with
  | error e => simp [bind, Except.bind]
  | ok u => simp [bind, Except.bind, pure, Except.pure, eq_comm]

/-- A new record that is newer than the stored one has no stored one: versions count from
one.
-/
theorem Sound.find?_of_first (h : t.Sound) {now : Instant}
    (new : Stored.revision a = Revision.first now)
    (newer : ∀ b, t.find? (Stored.id a) = some b → version b < version a)
    : t.find? (Stored.id a) = none := by
  rw [Option.eq_none_iff_forall_ne_some]
  intro b found
  have older := newer b found
  have positive := h.positive b (find?_mem found)
  have first : version a = 1 := by
    rw [version, new]
    rfl
  omega

end Table

end DebtMarket
