import DebtMarket.Proofs.Measures
import DebtMarket.Proofs.Market.Failure

/-! Edits. An edit names new values for some fields of a record and none for the others. It is
made as a whole or not at all: every value is checked before any is taken over. Two edits that
are made one after the other come to the same as one that names what either does, the later one
first, but for the number of changes that the record has seen.
-/

namespace DebtMarket

/-- How records are edited. A record is its content, what is fixed about it, and its revision; an
update is laid over the content, and two updates may be merged into one.
-/
structure Editing (ρ υ γ φ : Type) {kind : IdKind} [Stored ρ kind] where
  content : ρ → γ
  fixed : ρ → φ
  withRevision : ρ → Revision → ρ
  overlay : υ → γ → γ
  merge : υ → υ → υ
  content_withRevision : ∀ a r, content (withRevision a r) = content a
  fixed_withRevision : ∀ a r, fixed (withRevision a r) = fixed a
  revision_withRevision : ∀ a r, Stored.revision (withRevision a r) = r
  eq_of_parts
    : ∀ {a a'}, content a' = content a → fixed a' = fixed a
      → Stored.revision a' = Stored.revision a
      → a' = a
  overlay_merge : ∀ u v c, overlay (merge u v) c = overlay v (overlay u c)
  overlay_overlay : ∀ u c, overlay u (overlay u c) = overlay u c

-----------------------------------------------------------------------------------------
-- What edits of any kind come to
-----------------------------------------------------------------------------------------

namespace Editing

variable {ρ υ γ φ : Type} {kind : IdKind} [Stored ρ kind]
variable {revising : υ → Instant → InPlace ρ MarketError Unit} {Admits : ρ → υ → Instant → Prop}

/-- A record after an edit has what is given of its content, and is the same otherwise; it was
changed now, for one more time.
-/
structure Edited (e : Editing ρ υ γ φ) (a : ρ) (u : υ) (now : Instant) (a' : ρ) : Prop where
  content : e.content a' = e.overlay u (e.content a)
  fixed : e.fixed a' = e.fixed a
  createdAt : (Stored.revision a').createdAt = (Stored.revision a).createdAt
  deletedAt : (Stored.revision a').deletedAt = (Stored.revision a).deletedAt
  updatedAt : (Stored.revision a').updatedAt = now
  version
    : (Stored.revision a').version.toNat
      = min ((Stored.revision a).version.toNat + 1) (2 ^ 64 - 1)

/-- Edits in place are made just if they are admitted, as a whole or not at all. An edit after
another one comes to the two of them merged, but for the version, and an edit that is made again
changes nothing but the version and the time.
-/
structure Composes (e : Editing ρ υ γ φ) (revising : υ → Instant → InPlace ρ MarketError Unit)
    (Admits : ρ → υ → Instant → Prop)
    : Prop where
  made : ∀ a u now, ((revising u now).tried a).1 = .ok () ↔ Admits a u now
  edited : ∀ a u now, Admits a u now → e.Edited a u now ((revising u now).tried a).2
  refused
    : ∀ a u now, ¬Admits a u now
      → ∃ refusal, (revising u now).tried a = (.error refusal, a)
  merged
    : ∀ a u v now now' a₁ a₂ a',
      (revising u now).tried a = (.ok (), a₁)
      → (revising v now').tried a₁ = (.ok (), a₂)
      → (revising (e.merge u v) now').tried a = (.ok (), a')
      → a₂
        = e.withRevision a'
            { Stored.revision a' with version := (Stored.revision a₂).version }
  again
    : ∀ a u now now' a₁ a₂,
      (revising u now).tried a = (.ok (), a₁)
      → (revising u now').tried a₁ = (.ok (), a₂)
      → a₂
        = e.withRevision a₁
            {
              Stored.revision a₁ with
              version := (Stored.revision a₂).version,
              updatedAt := (Stored.revision a₂).updatedAt
            }

/-- A record is told from another one by its content, what is fixed about it, and its times, but
for the version.
-/
theorem eq_of_times (e : Editing ρ υ γ φ) {a a' : ρ} (content : e.content a' = e.content a)
    (fixed : e.fixed a' = e.fixed a)
    (createdAt : (Stored.revision a').createdAt = (Stored.revision a).createdAt)
    (deletedAt : (Stored.revision a').deletedAt = (Stored.revision a).deletedAt)
    : a'
      = e.withRevision a
          {
            Stored.revision a with
            version := (Stored.revision a').version,
            updatedAt := (Stored.revision a').updatedAt
          } := by
  apply e.eq_of_parts
  · rw [e.content_withRevision, content]
  · rw [e.fixed_withRevision, fixed]
  · simp only [e.revision_withRevision, ← createdAt, ← deletedAt]

theorem Edited.again {e : Editing ρ υ γ φ} {a a₁ a₂ : ρ} {u : υ} {now now' : Instant}
    (first : e.Edited a u now a₁) (later : e.Edited a₁ u now' a₂)
    : a₂
      = e.withRevision a₁
          {
            Stored.revision a₁ with
            version := (Stored.revision a₂).version,
            updatedAt := (Stored.revision a₂).updatedAt
          } := by
  refine e.eq_of_times ?_ later.fixed later.createdAt later.deletedAt
  rw [later.content, first.content, e.overlay_overlay]

theorem Edited.merged {e : Editing ρ υ γ φ} {a a₁ a₂ a' : ρ} {u v : υ} {now now' : Instant}
    (first : e.Edited a u now a₁) (later : e.Edited a₁ v now' a₂)
    (both : e.Edited a (e.merge u v) now' a')
    : a₂
      = e.withRevision a'
          { Stored.revision a' with version := (Stored.revision a₂).version } := by
  have content : e.content a₂ = e.content a' := by
    rw [later.content, first.content, both.content, e.overlay_merge]
  have same := e.eq_of_times content ((later.fixed.trans first.fixed).trans both.fixed.symm)
    ((later.createdAt.trans first.createdAt).trans both.createdAt.symm)
    ((later.deletedAt.trans first.deletedAt).trans both.deletedAt.symm)
  rwa [later.updatedAt, ← both.updatedAt] at same

/-- It is enough that what is refused is left alone, that what is admitted is made, and that what
is made was admitted and is right.
-/
theorem composes_of {e : Editing ρ υ γ φ} (whole : ∀ u now, (revising u now).Whole)
    (possible : ∀ {a u now}, Admits a u now → ∃ a', (revising u now).apply a = .ok a')
    (sound
      : ∀ {a u now a'}, (revising u now).apply a = .ok a'
        → Admits a u now ∧ e.Edited a u now a')
    : e.Composes revising Admits where
  made a u now := by
    refine ⟨fun done => (sound (InPlace.apply_eq_ok.2 (Prod.ext done rfl))).1, fun admitted => ?_⟩
    obtain ⟨a', done⟩ := possible admitted
    rw [InPlace.apply_eq_ok.1 done]
  edited a u now admitted := by
    obtain ⟨a', done⟩ := possible admitted
    rw [InPlace.apply_eq_ok.1 done]
    exact (sound done).2
  refused a u now barred := by
    rw [(whole u now).tried_eq]
    cases outcome : (revising u now).apply a with
    | error refusal => exact ⟨refusal, rfl⟩
    | ok a' => exact absurd (sound outcome).1 barred
  merged _ _ _ _ _ _ _ _ first later both :=
    (sound (InPlace.apply_eq_ok.2 first)).2.merged (sound (InPlace.apply_eq_ok.2 later)).2
      (sound (InPlace.apply_eq_ok.2 both)).2
  again _ _ _ _ _ _ first later :=
    (sound (InPlace.apply_eq_ok.2 first)).2.again (sound (InPlace.apply_eq_ok.2 later)).2

/-- A record that is touched has the times and the version of an edited one. -/
theorem edited_of_touch {e : Editing ρ υ γ φ} {a a' : ρ} {u : υ} {now : Instant}
    (content : e.content a' = e.overlay u (e.content a)) (fixed : e.fixed a' = e.fixed a)
    (touched : Stored.revision a' = (Stored.revision a).touch now)
    : e.Edited a u now a' := by
  refine ⟨content, fixed, ?_, ?_, ?_, ?_⟩ <;> rw [touched]
  · rfl
  · rfl
  · rfl
  · exact Revision.toNat_nextVersion _

end Editing

-----------------------------------------------------------------------------------------
-- Checks of the values
-----------------------------------------------------------------------------------------

/-- A check of a value that may be given passes if the value passes it. -/
theorem forM_eq_ok {ε α : Type} {check : α → Except ε Unit} {given : Option α} {done : Unit}
    : given.forM check = .ok done ↔ ∀ a ∈ given, check a = .ok () := by
  cases given with
  | none => simp [Option.forM, pure, Except.pure]
  | some a => simp [Option.forM]

/-- A value that either of two edits gives is the one of the later edit if that gives one. -/
theorem getD_later {α : Type} (earlier later : Option α) (a : α)
    : (later <|> earlier).getD a = later.getD (earlier.getD a) := by
  cases later <;> rfl

namespace Amount

/-- An amount that may be given is taken over as it is. -/
theorem mapM_make_eq_ok {given : Option Decimal} {taken : Option Amount}
    : given.mapM make = .ok taken ↔ taken.map decimal = given := by
  cases given with
  | none => cases taken <;> simp [pure, Except.pure]
  | some d =>
      simp only [Option.mapM_some, ← bind_pure_comp, except_bind_eq_ok, make_eq_ok, pure,
        Except.pure, Except.ok.injEq, Option.map_eq_some_iff]
      exact exists_congr fun a => ⟨fun h => ⟨h.2.symm, h.1⟩, fun h => ⟨h.2, h.1.symm⟩⟩

/-- An amount that may be given is taken over if it is above zero. -/
theorem exists_mapM_make {given : Option Decimal}
    : (∃ taken, given.mapM make = .ok taken) ↔ ∀ d ∈ given, 0 < d.number := by
  simp only [mapM_make_eq_ok]
  constructor
  · rintro ⟨taken, rfl⟩ d member
    obtain ⟨a, -, rfl⟩ := Option.map_eq_some_iff.1 member
    exact Decimal.number_pos_iff.2 a.positive
  · intro positive
    cases given with
    | none => exact ⟨none, rfl⟩
    | some d => exact ⟨some ⟨d, Decimal.number_pos_iff.1 (positive d rfl)⟩, rfl⟩

/-- The amount after an edit is the given one, or else the old one. -/
theorem decimal_getD {given : Option Decimal} {taken : Option Amount} (a : Amount)
    (checked : given.mapM make = .ok taken)
    : (taken.getD a).decimal = given.getD a.decimal := by
  rw [← mapM_make_eq_ok.1 checked]
  cases taken <;> rfl

end Amount

-----------------------------------------------------------------------------------------
-- Drafts
-----------------------------------------------------------------------------------------

namespace DraftUpdate

/-- The terms with every field that is given. -/
def overlay (u : DraftUpdate) (terms : InstrumentTerms) : InstrumentTerms :=
  {
    name := u.name.getD terms.name,
    faceValue := u.faceValue.getD terms.faceValue,
    currency := u.currency.getD terms.currency,
    maturityDate := u.maturityDate.getD terms.maturityDate,
    maturityPayment := u.maturityPayment.getD terms.maturityPayment,
    publicPayload := u.publicPayload <|> terms.publicPayload
  }

/-- The fields that either of two updates gives, the later one first. -/
def merge (u v : DraftUpdate) : DraftUpdate :=
  {
    name := v.name <|> u.name,
    faceValue := v.faceValue <|> u.faceValue,
    currency := v.currency <|> u.currency,
    maturityDate := v.maturityDate <|> u.maturityDate,
    maturityPayment := v.maturityPayment <|> u.maturityPayment,
    publicPayload := v.publicPayload <|> u.publicPayload
  }

theorem overlay_merge (u v : DraftUpdate) (terms : InstrumentTerms)
    : (merge u v).overlay terms = v.overlay (u.overlay terms) := by
  simp only [overlay, merge, getD_later]
  simp only [Option.orElse_eq_orElse, Option.orElse_eq_or, Option.or_assoc]

theorem merge_self (u : DraftUpdate) : merge u u = u := by
  simp only [merge, Option.orElse_eq_orElse, Option.orElse_eq_or, Option.or_self]

end DraftUpdate

namespace Instrument

/-- All that an edit leaves alone in an instrument, its revision aside. -/
abbrev Fixed : Type :=
  InstrumentId × CompanyId × UserId × InstrumentStatus × MaturityStatus × TradingStatus

/-- What is fixed about an instrument. -/
def fixed (x : Instrument) : Fixed :=
  (x.id, x.issuer, x.createdBy, x.status, x.maturityStatus, x.tradingStatus)

theorem eq_of_parts {x x' : Instrument} (terms : x'.terms = x.terms) (fixed : x'.fixed = x.fixed)
    (revision : x'.revision = x.revision)
    : x' = x := by
  simp only [Instrument.terms, InstrumentTerms.mk.injEq] at terms
  simp only [Instrument.fixed, Prod.mk.injEq] at fixed
  have faceValue := Amount.ext_decimal terms.2.1
  have maturityPayment := Amount.ext_decimal terms.2.2.2.2.1
  cases x
  cases x'
  simp_all

/-- The terms of an instrument are edited. -/
def editing : Editing Instrument DraftUpdate InstrumentTerms Fixed where
  content := terms
  fixed := fixed
  withRevision x revision := { x with revision }
  overlay := DraftUpdate.overlay
  merge := DraftUpdate.merge
  content_withRevision _ _ := rfl
  fixed_withRevision _ _ := rfl
  revision_withRevision _ _ := rfl
  eq_of_parts := eq_of_parts
  overlay_merge := DraftUpdate.overlay_merge
  overlay_overlay u terms := by rw [← DraftUpdate.overlay_merge, DraftUpdate.merge_self]

/-- A draft may be edited to amounts above zero and to a maturity after the present day. -/
structure Admits (x : Instrument) (u : DraftUpdate) (now : Instant) : Prop where
  status : x.status = .draft
  faceValue : ∀ d ∈ u.faceValue, 0 < d.number
  maturityPayment : ∀ d ∈ u.maturityPayment, 0 < d.number
  maturityDate : ∀ date ∈ u.maturityDate, now.date.calendar < date.calendar

theorem checkMaturity_eq_ok {date : Date} {now : Instant}
    : checkMaturity date now = .ok () ↔ now.date.calendar < date.calendar := by
  rw [checkMaturity, ← not_le, ← Date.rank_le_iff]
  split
  · next late => simp [late]
  · next early => simp [early]

/-- All checks of an edit stand before its first write, so a refused edit has written nothing. -/
theorem revising_whole (u : DraftUpdate) (now : Instant) : (revising u now).Whole := by
  refine InPlace.reads_get.bind_whole fun x => ?_
  split
  · exact InPlace.whole_throw_bind _ _
  · refine (InPlace.reads_check _).bind_whole fun faceValue => ?_
    refine (InPlace.reads_check _).bind_whole fun maturityPayment => ?_
    refine (InPlace.reads_check _).bind_whole fun _ => InPlace.Surely.whole ?_
    refine (InPlace.surely_write u.name _).bind fun _ => ?_
    refine (InPlace.surely_write faceValue _).bind fun _ => ?_
    refine (InPlace.surely_write u.currency _).bind fun _ => ?_
    refine (InPlace.surely_write u.maturityDate _).bind fun _ => ?_
    refine (InPlace.surely_write maturityPayment _).bind fun _ => ?_
    refine (InPlace.surely_write u.publicPayload _).bind fun _ => ?_
    exact InPlace.surely_modify _

theorem Admits.made {x : Instrument} {u : DraftUpdate} {now : Instant} (h : x.Admits u now)
    : ∃ x', x.applyUpdate u now = .ok x' := by
  obtain ⟨faceValue, first⟩ := Amount.exists_mapM_make.2 h.faceValue
  obtain ⟨maturityPayment, second⟩ := Amount.exists_mapM_make.2 h.maturityPayment
  have third : u.maturityDate.forM (fun date => checkMaturity date now) = .ok () :=
    forM_eq_ok.2 fun date member => checkMaturity_eq_ok.2 (h.maturityDate date member)
  exact ⟨_, applyUpdate_eq_ok.2
    ⟨isEditable_iff.2 h.status, faceValue, first, maturityPayment, second, third, rfl⟩⟩

theorem edited_of_ok {x x' : Instrument} {u : DraftUpdate} {now : Instant}
    (h : x.applyUpdate u now = .ok x')
    : x.Admits u now ∧ editing.Edited x u now x' := by
  obtain ⟨editable, faceValue, first, maturityPayment, second, third, rfl⟩ := applyUpdate_eq_ok.1 h
  constructor
  · have positive := Amount.exists_mapM_make.1 ⟨_, first⟩
    have positive' := Amount.exists_mapM_make.1 ⟨_, second⟩
    simp only [forM_eq_ok, checkMaturity_eq_ok] at third
    exact ⟨isEditable_iff.1 editable, positive, positive', third⟩
  · refine Editing.edited_of_touch ?_ rfl rfl
    simp only [editing, terms, revised, DraftUpdate.overlay, Amount.decimal_getD _ first,
      Amount.decimal_getD _ second]

end Instrument

-----------------------------------------------------------------------------------------
-- Asks
-----------------------------------------------------------------------------------------

namespace AskUpdate

/-- The price with every field that is given. -/
def overlay (u : AskUpdate) (price : Decimal × Currency × Option Instant)
    : Decimal × Currency × Option Instant :=
  (u.amount.getD price.1, u.currency.getD price.2.1, u.validUntil <|> price.2.2)

/-- The fields that either of two updates gives, the later one first. -/
def merge (u v : AskUpdate) : AskUpdate :=
  {
    amount := v.amount <|> u.amount,
    currency := v.currency <|> u.currency,
    validUntil := v.validUntil <|> u.validUntil
  }

theorem overlay_merge (u v : AskUpdate) (price : Decimal × Currency × Option Instant)
    : (merge u v).overlay price = v.overlay (u.overlay price) := by
  simp only [overlay, merge, getD_later]
  simp only [Option.orElse_eq_orElse, Option.orElse_eq_or, Option.or_assoc]

theorem merge_self (u : AskUpdate) : merge u u = u := by
  simp only [merge, Option.orElse_eq_orElse, Option.orElse_eq_or, Option.or_self]

end AskUpdate

namespace Ask

/-- What is asked for: an amount of a currency until some time. -/
def asked (a : Ask) : Decimal × Currency × Option Instant :=
  (a.amount.decimal, a.currency, a.validUntil)

/-- All that an edit leaves alone in an ask, its revision aside. -/
abbrev Fixed : Type :=
  AskId × ListingId × CompanyId × UserId × ExecutionMode × Bool × AskStatus

/-- What is fixed about an ask. -/
def fixed (a : Ask) : Fixed :=
  (a.id, a.listing, a.asker, a.askerUser, a.mode, a.binding, a.status)

theorem eq_of_parts {a a' : Ask} (asked : a'.asked = a.asked) (fixed : a'.fixed = a.fixed)
    (revision : a'.revision = a.revision)
    : a' = a := by
  simp only [Ask.asked, Prod.mk.injEq] at asked
  simp only [Ask.fixed, Prod.mk.injEq] at fixed
  have amount := Amount.ext_decimal asked.1
  cases a
  cases a'
  simp_all

/-- The price of an ask is edited. -/
def editing : Editing Ask AskUpdate (Decimal × Currency × Option Instant) Fixed where
  content := asked
  fixed := fixed
  withRevision a revision := { a with revision }
  overlay := AskUpdate.overlay
  merge := AskUpdate.merge
  content_withRevision _ _ := rfl
  fixed_withRevision _ _ := rfl
  revision_withRevision _ _ := rfl
  eq_of_parts := eq_of_parts
  overlay_merge := AskUpdate.overlay_merge
  overlay_overlay u price := by rw [← AskUpdate.overlay_merge, AskUpdate.merge_self]

/-- An active ask may be edited to an amount above zero and to a deadline in the future. -/
structure Admits (a : Ask) (u : AskUpdate) (now : Instant) : Prop where
  status : a.status = .active
  amount : ∀ d ∈ u.amount, 0 < d.number
  validUntil : ∀ deadline ∈ u.validUntil, now.reading < deadline.reading

theorem checkDeadline_eq_ok {deadline now : Instant}
    : checkDeadline deadline now = .ok () ↔ now.reading < deadline.reading := by
  rw [checkDeadline, ← not_le, ← Instant.rank_le_iff]
  change (if deadline.rank ≤ now.rank then _ else _) = _ ↔ _
  split
  · next late => simp [late]
  · next early => simp [early]

/-- The checks of an edit stand before its first write here as well. -/
theorem revising_whole (u : AskUpdate) (now : Instant) : (revising u now).Whole := by
  refine InPlace.reads_get.bind_whole fun a => ?_
  split
  · exact InPlace.whole_throw_bind _ _
  · refine (InPlace.reads_check _).bind_whole fun amount => ?_
    refine (InPlace.reads_check _).bind_whole fun _ => InPlace.Surely.whole ?_
    refine (InPlace.surely_write amount _).bind fun _ => ?_
    refine (InPlace.surely_write u.currency _).bind fun _ => ?_
    refine (InPlace.surely_write u.validUntil _).bind fun _ => ?_
    exact InPlace.surely_modify _

theorem Admits.made {a : Ask} {u : AskUpdate} {now : Instant} (h : a.Admits u now)
    : ∃ a', a.applyUpdate u now = .ok a' := by
  obtain ⟨amount, first⟩ := Amount.exists_mapM_make.2 h.amount
  have second : u.validUntil.forM (fun deadline => checkDeadline deadline now) = .ok () :=
    forM_eq_ok.2 fun deadline member => checkDeadline_eq_ok.2 (h.validUntil deadline member)
  exact ⟨_, applyUpdate_eq_ok.2 ⟨isActive_iff.2 h.status, amount, first, second, rfl⟩⟩

theorem edited_of_ok {a a' : Ask} {u : AskUpdate} {now : Instant}
    (h : a.applyUpdate u now = .ok a')
    : a.Admits u now ∧ editing.Edited a u now a' := by
  obtain ⟨active, amount, first, second, rfl⟩ := applyUpdate_eq_ok.1 h
  constructor
  · simp only [forM_eq_ok, checkDeadline_eq_ok] at second
    exact ⟨isActive_iff.1 active, Amount.exists_mapM_make.1 ⟨_, first⟩, second⟩
  · refine Editing.edited_of_touch ?_ rfl rfl
    simp only [editing, asked, revised, AskUpdate.overlay, Amount.decimal_getD _ first]

end Ask

-----------------------------------------------------------------------------------------
-- Drafts and asks
-----------------------------------------------------------------------------------------

/-- Drafts and asks are edited in place, as a whole or not at all, and edits of them compose. -/
theorem edits_compose
    : Instrument.editing.Composes Instrument.revising Instrument.Admits
      ∧ Ask.editing.Composes Ask.revising Ask.Admits :=
  ⟨
    Editing.composes_of Instrument.revising_whole Instrument.Admits.made Instrument.edited_of_ok,
    Editing.composes_of Ask.revising_whole Ask.Admits.made Ask.edited_of_ok
  ⟩

namespace Sample

open Market.Sample

/-- A draft that was not edited yet. -/
def draft : Instrument :=
  { proposed with status := .draft }

/-- An update to another name and to a maturity, if one is given. -/
def renamed (name : String) (maturityDate : Option Date) : DraftUpdate :=
  {
    name := some name,
    faceValue := none,
    currency := none,
    maturityDate,
    maturityPayment := none,
    publicPayload := none
  }

end Sample

open Market.Sample in
/-- A draft that is renamed twice is the draft with the last name and with the maturity that only
the first update gives, but it has changed once more; and it keeps its name if the maturity that
comes with a new one is of the present day.
-/
theorem edits_compose_renamed
    : (∃ x₁ x₂ x',
        (Instrument.revising (Sample.renamed "bill" (some nextYear)) newYear).tried Sample.draft
          = (.ok (), x₁)
        ∧ (Instrument.revising (Sample.renamed "bond" none) newYear).tried x₁ = (.ok (), x₂)
        ∧ (Instrument.revising (Sample.renamed "bond" (some nextYear)) newYear).tried Sample.draft
          = (.ok (), x')
        ∧ x₂
          = Instrument.editing.withRevision x'
              { x'.revision with version := x₂.revision.version }
        ∧ x₂.revision.version ≠ x'.revision.version)
      ∧ ∃ refusal,
        (Instrument.revising (Sample.renamed "bill" (some newYear.date)) newYear).tried Sample.draft
          = (.error refusal, Sample.draft) := by
  constructor
  · refine ⟨_, _, _, rfl, rfl, rfl, ?_, by decide⟩
    exact edits_compose.1.merged Sample.draft (Sample.renamed "bill" (some nextYear))
      (Sample.renamed "bond" none) newYear newYear _ _ _ rfl rfl rfl
  · refine edits_compose.1.refused Sample.draft _ newYear fun admitted => ?_
    exact lt_irrefl _ (admitted.maturityDate newYear.date rfl)

end DebtMarket
