import DebtMarket.Proofs.Store.Table

/-! How records evolve. From one moment to the next what is found under an identifier stays as
it is, is created in its first version, or is superseded by its next version. A table evolves
when this holds under every identifier.
-/

namespace DebtMarket

variable {α β : Type}

/-- From one moment to the next what is found stays, is created or is changed. -/
inductive Evolves (Made : α → Prop) (Turned : α → α → Prop) : Option α → Option α → Prop
  | stays (found : Option α) : Evolves Made Turned found found
  | created {a} (made : Made a) : Evolves Made Turned none (some a)
  | changed {a a'} (turned : Turned a a') : Evolves Made Turned (some a) (some a')

namespace Evolves

variable {Made Made' : α → Prop} {Turned Turned' : α → α → Prop} {before after : Option α}
  {a a' : α}

theorem mono (h : Evolves Made Turned before after) (made : ∀ a, Made a → Made' a)
    (turned : ∀ a a', Turned a a' → Turned' a a')
    : Evolves Made' Turned' before after := by
  cases h with
  | stays found => exact .stays _
  | created new => exact .created (made _ new)
  | changed how => exact .changed (turned _ _ how)

/-- What is found does not vanish. -/
theorem of_some (h : Evolves Made Turned (some a) after)
    : ∃ a', after = some a' ∧ (a' = a ∨ Turned a a') := by
  cases h with
  | stays found => exact ⟨a, rfl, .inl rfl⟩
  | changed turned => exact ⟨_, rfl, .inr turned⟩

/-- What holds of what was found before and of what is created, and is kept by every change,
holds of what is found.
-/
theorem holds {P : α → Prop} (h : Evolves Made Turned before (some a'))
    (old : ∀ a, before = some a → P a) (made : ∀ a, Made a → P a)
    (turned : ∀ a a', Turned a a' → P a → P a')
    : P a' := by
  cases h with
  | stays found => exact old a' rfl
  | created new => exact made a' new
  | changed how => exact turned _ a' how (old _ rfl)

/-- A part of what is found evolves too, if every change of the whole keeps or changes it. -/
theorem map {Part : β → Prop} {Step : β → β → Prop} (part : α → β)
    (h : Evolves Made Turned before after) (made : ∀ a, Made a → Part (part a))
    (turned : ∀ a a', Turned a a' → part a' = part a ∨ Step (part a) (part a'))
    : Evolves Part Step (before.map part) (after.map part) := by
  cases h with
  | stays found => exact .stays _
  | created new => exact .created (made _ new)
  | @changed a a' how =>
      rcases turned a a' how with same | step
      · rw [Option.map_some, Option.map_some, same]
        exact .stays _
      · exact .changed step

end Evolves

namespace Table

variable {kind : IdKind} [Stored α kind] {t t' : Table α} {a b : α} {id : Id kind}
  {Made Made' : α → Prop} {Turned Turned' : α → α → Prop}

/-- A record is the next version of another one. -/
structure Supersedes (a' a : α) : Prop where
  id : Stored.id a' = Stored.id a
  created : (Stored.revision a').createdAt = (Stored.revision a).createdAt
  version : version a' = version a + 1

/-- What is found under every identifier stays, is created in its first version or is
superseded by its next one.
-/
def Evolves (Made : α → Prop) (Turned : α → α → Prop) (t t' : Table α) : Prop :=
  ∀ id, DebtMarket.Evolves (fun a => version a = 1 ∧ Made a)
    (fun a a' => Supersedes a' a ∧ Turned a a') (t.get? id) (t'.get? id)

namespace Evolves

theorem refl (t : Table α) : t.Evolves Made Turned t :=
  fun id => .stays (t.get? id)

theorem mono (h : t.Evolves Made Turned t') (made : ∀ a, Made a → Made' a)
    (turned : ∀ a a', Turned a a' → Turned' a a')
    : t.Evolves Made' Turned' t' :=
  fun id => (h id).mono (fun a new => ⟨new.1, made a new.2⟩)
    fun a a' how => ⟨how.1, turned a a' how.2⟩

/-- What holds of all records that were stored before and of all that are created, and is kept
by every change, holds of all that are stored.
-/
theorem all {P : α → Prop} (h : t.Evolves Made Turned t')
    (old : ∀ id a, t.get? id = some a → P a) (made : ∀ a, Made a → P a)
    (turned : ∀ a a', Turned a a' → P a → P a') (id : Id kind) (a : α)
    (found : t'.get? id = some a)
    : P a := by
  have evolves := h id
  rw [found] at evolves
  exact evolves.holds (old id) (fun a new => made a new.2) fun a a' how => turned a a' how.2

end Evolves

/-- A new record that is saved is created: no record of its identifier was stored. -/
theorem evolves_first (sound : t.Sound) {now : Instant}
    (new : Stored.revision a = Revision.first now)
    (newer : ∀ b, t.find? (Stored.id a) = some b → version b < version a) (made : Made a)
    : t.Evolves Made Turned (t.put a) := by
  intro id
  by_cases here : Stored.id a = id
  · subst here
    have live : isLive a = true := by
      rw [isLive, new]
      rfl
    rw [get?_of_absent (sound.find?_of_first new newer), get?_put_self live]
    refine .created ⟨?_, made⟩
    rw [version, new]
    rfl
  · rw [get?_put_other here]
    exact .stays _

/-- A touched record that the store accepts is the next version of the stored one: at the
greatest version the store would have refused it.
-/
theorem supersedes_of_newer (stored : t.get? (Stored.id b) = some b) {now : Instant}
    (id : Stored.id a = Stored.id b)
    (touched : Stored.revision a = (Stored.revision b).touch now)
    (newer : ∀ c, t.find? (Stored.id a) = some c → version c < version a)
    : Supersedes a b where
  id := id
  created := by rw [touched]; rfl
  version := by
    have grown := newer b (id ▸ (get?_eq_some.1 stored).1)
    have bounded := Revision.toNat_nextVersion (Stored.revision b).version
    simp only [version, touched, Revision.touch] at grown ⊢
    omega

theorem isLive_of_touched (stored : t.get? (Stored.id b) = some b) {now : Instant}
    (touched : Stored.revision a = (Stored.revision b).touch now)
    : isLive a = true := by
  rw [isLive, touched]
  exact (get?_eq_some.1 stored).2

/-- A touched record that is saved is found in the place of the stored one. -/
theorem get?_put_next (stored : t.get? (Stored.id b) = some b) {now : Instant}
    (id : Stored.id a = Stored.id b)
    (touched : Stored.revision a = (Stored.revision b).touch now)
    : (t.put a).get? (Stored.id b) = some a := by
  rw [← id]
  exact get?_put_self (isLive_of_touched stored touched)

/-- Touched records of different identifiers that are saved together supersede the stored
ones, and all other records stay.
-/
theorem evolves_puts {records : List α} (once : (records.map Stored.id).Nodup)
    (newer : ∀ a ∈ records, ∀ b, t.find? (Stored.id a) = some b → version b < version a)
    (turned
      : ∀ a ∈ records, ∃ b, ∃ now : Instant, t.get? (Stored.id b) = some b
        ∧ Stored.id a = Stored.id b ∧ Stored.revision a = (Stored.revision b).touch now
        ∧ Turned b a)
    : t.Evolves Made Turned (records.foldl put t) := by
  intro id
  by_cases here : ∃ a ∈ records, Stored.id a = id
  · obtain ⟨a, member, rfl⟩ := here
    obtain ⟨b, now, stored, same, touched, how⟩ := turned a member
    have found := find?_puts_mem (t := t) once member
    rw [get?_eq_some.2 ⟨found, isLive_of_touched stored touched⟩, same, stored]
    exact .changed ⟨supersedes_of_newer stored same touched (newer a member), how⟩
  · rw [get?_puts_other fun a member same => here ⟨a, member, same⟩]
    exact .stays _

/-- A touched record that is saved supersedes the stored one. -/
theorem evolves_next (stored : t.get? (Stored.id b) = some b) {now : Instant}
    (id : Stored.id a = Stored.id b)
    (touched : Stored.revision a = (Stored.revision b).touch now)
    (newer : ∀ c, t.find? (Stored.id a) = some c → version c < version a)
    (turned : Turned b a)
    : t.Evolves Made Turned (t.put a) := by
  have once : ([a].map Stored.id).Nodup := List.nodup_singleton _
  refine evolves_puts once ?_ ?_
  · intro c member
    rw [List.mem_singleton.1 member]
    exact newer
  · intro c member
    rw [List.mem_singleton.1 member]
    exact ⟨b, now, stored, id, touched, turned⟩

end Table

end DebtMarket
