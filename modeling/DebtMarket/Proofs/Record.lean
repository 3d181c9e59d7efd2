import Mathlib.Algebra.Order.Ring.Int
import Mathlib.Data.List.Forall2
import DebtMarket.Ask
import DebtMarket.Bid
import DebtMarket.Instrument
import DebtMarket.Listing
import DebtMarket.Proofs.InPlace

/-! What a change of a record leaves alone. A new record has its first revision, a changed
one is touched once, and no change moves a record to another identifier or listing.
-/

namespace DebtMarket

/-- A computation that may be refused has a result if each of its parts has one. -/
theorem except_bind_eq_ok {ε α β : Type} {x : Except ε α} {f : α → Except ε β} {b : β}
    : (x >>= f) = .ok b ↔ ∃ a, x = .ok a ∧ f a = .ok b := by
  cases x with
  | error e => simp [bind, Except.bind]
  | ok a => simp [bind, Except.bind]

/-- Several computations have results if each of them has one, by induction on them. -/
theorem mapM_eq_ok {ε α β : Type} {f : α → Except ε β} {as : List α} {bs : List β}
    : as.mapM f = .ok bs ↔ List.Forall₂ (fun a b => f a = .ok b) as bs := by
  induction as generalizing bs with
  | nil => simp [pure, Except.pure, eq_comm]
  | cons a rest ih =>
      simp only [List.mapM_cons, except_bind_eq_ok, ih, List.forall₂_cons_left_iff]
      constructor
      · rintro ⟨b, first, bs, others, made⟩
        cases made
        exact ⟨b, bs, first, others, rfl⟩
      · rintro ⟨b, bs, first, others, rfl⟩
        exact ⟨b, first, bs, others, rfl⟩

namespace Decimal

/-- A decimal is above zero just if its value is. -/
theorem value_pos_iff {d : Decimal} : 0 < d.value ↔ d.isPositive = true := by
  have scale : (0 : Int) < Nat.pow 10 (28 - d.scale) :=
    Int.natCast_pos.2 (Nat.pow_pos (by decide))
  rw [value, mul_pos_iff_of_pos_right scale, isPositive, Bool.and_eq_true,
    decide_eq_true_eq]
  cases d.negative with
  | false => simp
  | true => simp

end Decimal

namespace Amount

theorem ext_decimal {a b : Amount} (same : a.decimal = b.decimal) : a = b := by
  cases a
  cases b
  subst same
  rfl

/-- An amount is made of its own decimal, and of no other. -/
theorem make_eq_ok {d : Decimal} {a : Amount} : make d = .ok a ↔ a.decimal = d := by
  rw [make]
  split
  · rw [Except.ok.injEq]
    exact ⟨fun same => same ▸ rfl, fun same => ext_decimal same.symm⟩
  · next refused =>
      refine ⟨nofun, fun same => absurd a.positive ?_⟩
      rwa [same]

/-- An amount is above zero. -/
theorem value_pos (a : Amount) : 0 < a.decimal.value :=
  Decimal.value_pos_iff.2 a.positive

end Amount

namespace Revision

variable {r : Revision} {now : Instant}

/-- The revision after a change, one version later. -/
def next (r : Revision) (now : Instant) : Revision :=
  { r with version := r.version + 1, updatedAt := now }

/-- Only the greatest version does not grow. -/
theorem touch_eq_next (below : r.version < maxVersion) : r.touch now = r.next now := by
  have other : r.version ≠ maxVersion := fun same => by
    rw [same] at below
    exact absurd below (by decide)
  rw [touch, nextVersion, if_neg other, next]

/-- A version that has grown was not the greatest one. -/
theorem below_of_touch (grown : r.version.toNat < (r.touch now).version.toNat)
    : r.version < maxVersion := by
  have next := toNat_nextVersion r.version
  have greatest : maxVersion.toNat = 18446744073709551615 := rfl
  rw [UInt64.lt_iff_toNat_lt]
  simp only [touch] at grown
  omega

end Revision

namespace Instrument

theorem isEditable_iff {x : Instrument} : x.isEditable = true ↔ x.status = .draft :=
  beq_iff_eq

/-- A draft is a new instrument. -/
theorem draft_new {terms : InstrumentTerms} {issuer : CompanyId} {user : UserId}
    {now : Instant} {make : InstrumentId → Instrument}
    (h : draft terms issuer user now = .ok make) (id : InstrumentId)
    : (make id).id = id ∧ (make id).revision = Revision.first now := by
  simp only [draft, except_bind_eq_ok] at h
  obtain ⟨faceValue, -, maturityPayment, -, -, -, made⟩ := h
  cases made
  exact ⟨rfl, rfl⟩

theorem draft_status {terms : InstrumentTerms} {issuer : CompanyId} {user : UserId}
    {now : Instant} {make : InstrumentId → Instrument}
    (h : draft terms issuer user now = .ok make) (id : InstrumentId)
    : (make id).status = .draft := by
  simp only [draft, except_bind_eq_ok] at h
  obtain ⟨faceValue, -, maturityPayment, -, -, -, made⟩ := h
  cases made
  rfl

/-- The instrument with all that an edit gives, once the amounts among it are checked. -/
def revised (x : Instrument) (u : DraftUpdate) (faceValue maturityPayment : Option Amount)
    (now : Instant)
    : Instrument :=
  {
    x with
    name := u.name.getD x.name,
    faceValue := faceValue.getD x.faceValue,
    currency := u.currency.getD x.currency,
    maturityDate := u.maturityDate.getD x.maturityDate,
    maturityPayment := maturityPayment.getD x.maturityPayment,
    publicPayload := u.publicPayload <|> x.publicPayload,
    revision := x.revision.touch now
  }

/-- An edit of a draft takes over what is checked, field by field. -/
theorem applyUpdate_of_editable {x : Instrument} (editable : x.isEditable = true)
    (u : DraftUpdate) (now : Instant)
    : x.applyUpdate u now = (do
        let faceValue ← u.faceValue.mapM Amount.make
        let maturityPayment ← u.maturityPayment.mapM Amount.make
        u.maturityDate.forM fun date => checkMaturity date now
        return x.revised u faceValue maturityPayment now) := by
  rw [applyUpdate, revising, InPlace.apply_get_bind, if_neg (by simp [editable])]
  simp only [InPlace.apply_check_bind, InPlace.apply_write_bind, InPlace.apply_modify]
  refine bind_congr fun faceValue => bind_congr fun maturityPayment => bind_congr fun _ => ?_
  refine congrArg Except.ok ?_
  obtain ⟨name, -, currency, maturityDate, -, payload⟩ := u
  cases name <;> cases faceValue <;> cases currency <;> cases maturityDate <;>
    cases maturityPayment <;> cases payload <;> rfl

/-- What is no draft is not edited. -/
theorem applyUpdate_of_not_editable {x : Instrument} (fixed : x.isEditable = false)
    (u : DraftUpdate) (now : Instant)
    : x.applyUpdate u now = .error (.notEditable x.id x.status) := by
  rw [applyUpdate, revising, InPlace.apply_get_bind, if_pos (by simp [fixed])]
  rfl

/-- An edit is made exactly if it is of a draft and all that it gives passes its check. -/
theorem applyUpdate_eq_ok {x x' : Instrument} {u : DraftUpdate} {now : Instant}
    : x.applyUpdate u now = .ok x'
      ↔ x.isEditable = true
        ∧ ∃ faceValue, u.faceValue.mapM Amount.make = .ok faceValue
        ∧ ∃ maturityPayment, u.maturityPayment.mapM Amount.make = .ok maturityPayment
        ∧ u.maturityDate.forM (fun date => checkMaturity date now) = .ok ()
        ∧ x.revised u faceValue maturityPayment now = x' := by
  cases editable : x.isEditable with
  | false => simp [applyUpdate_of_not_editable editable]
  | true =>
      rw [applyUpdate_of_editable editable]
      simp [except_bind_eq_ok, pure, Except.pure, Unique.exists_iff]

/-- An update touches a draft once. -/
theorem applyUpdate_touch {x x' : Instrument} {u : DraftUpdate} {now : Instant}
    (h : x.applyUpdate u now = .ok x')
    : x'.id = x.id ∧ x'.revision = x.revision.touch now := by
  obtain ⟨-, faceValue, -, maturityPayment, -, -, rfl⟩ := applyUpdate_eq_ok.1 h
  exact ⟨rfl, rfl⟩

/-- What is fixed about an instrument from its draft on. -/
def origin (x : Instrument) : InstrumentId × CompanyId × UserId × Instant :=
  (x.id, x.issuer, x.createdBy, x.revision.createdAt)

/-- The terms on which an instrument stands. -/
def terms (x : Instrument) : InstrumentTerms :=
  {
    name := x.name,
    faceValue := x.faceValue.decimal,
    currency := x.currency,
    maturityDate := x.maturityDate,
    maturityPayment := x.maturityPayment.decimal,
    publicPayload := x.publicPayload
  }

theorem moveTo_origin (x : Instrument) (target : InstrumentStatus) (now : Instant)
    : (x.moveTo target now).origin = x.origin :=
  rfl

theorem moveTo_terms (x : Instrument) (target : InstrumentStatus) (now : Instant)
    : (x.moveTo target now).terms = x.terms :=
  rfl

/-- A draft is not due. -/
theorem draft_maturityStatus {terms : InstrumentTerms} {issuer : CompanyId} {user : UserId}
    {now : Instant} {make : InstrumentId → Instrument}
    (h : draft terms issuer user now = .ok make) (id : InstrumentId)
    : (make id).maturityStatus = .notDue := by
  simp only [draft, except_bind_eq_ok] at h
  obtain ⟨faceValue, -, maturityPayment, -, -, -, made⟩ := h
  cases made
  rfl

/-- An update is of a draft, and concerns its terms only. -/
theorem applyUpdate_fixed {x x' : Instrument} {u : DraftUpdate} {now : Instant}
    (h : x.applyUpdate u now = .ok x')
    : x.status = .draft ∧ x'.origin = x.origin ∧ x'.maturityStatus = x.maturityStatus := by
  obtain ⟨editable, faceValue, -, maturityPayment, -, -, rfl⟩ := applyUpdate_eq_ok.1 h
  exact ⟨isEditable_iff.1 editable, rfl, rfl⟩

/-- An update leaves a draft a draft. -/
theorem applyUpdate_status {x x' : Instrument} {u : DraftUpdate} {now : Instant}
    (h : x.applyUpdate u now = .ok x')
    : x'.status = x.status := by
  obtain ⟨-, faceValue, -, maturityPayment, -, -, rfl⟩ := applyUpdate_eq_ok.1 h
  rfl

end Instrument

namespace Listing

theorem isOpen_iff {x : Listing} : x.isOpen = true ↔ x.status = .opened :=
  beq_iff_eq

/-- What is fixed about a listing from its start on. -/
def origin (x : Listing) : ListingId × InstrumentId × CompanyId × UserId × Instant :=
  (x.id, x.instrument, x.seller, x.creator, x.revision.createdAt)

theorem moveTo_origin (x : Listing) (target : ListingStatus) (now : Instant)
    : (x.moveTo target now).origin = x.origin :=
  rfl

end Listing

namespace Bid

theorem isPending_iff {b : Bid} : b.isPending = true ↔ b.status = .pending :=
  beq_iff_eq

/-- What is fixed about a bid from its placement on. -/
def origin (b : Bid)
    : BidId × ListingId × CompanyId × UserId × Currency × Amount × Option Instant × Instant :=
  (b.id, b.listing, b.bidder, b.bidderUser, b.currency, b.amount, b.validUntil,
    b.revision.createdAt)

theorem moveTo_origin (b : Bid) (target : BidStatus) (now : Instant)
    : (b.moveTo target now).origin = b.origin :=
  rfl

/-- A bid is resolved by being moved from pending to its answer. -/
theorem resolve_eq_ok {b b' : Bid} {answer : BidStatus} {now : Instant}
    : b.resolve answer now = .ok b' ↔ b.isPending = true ∧ b' = b.moveTo answer now := by
  rw [resolve, resolving, InPlace.apply_get_bind]
  cases pending : b.isPending with
  | false => simp
  | true => simp [eq_comm]

/-- A pending bid is resolved without a refusal. -/
theorem resolve_of_pending {b : Bid} (pending : b.isPending = true) (answer : BidStatus)
    (now : Instant)
    : b.resolve answer now = .ok (b.moveTo answer now) :=
  resolve_eq_ok.2 ⟨pending, rfl⟩

/-- Pending bids are set aside together without a refusal, by induction on them. -/
theorem setAside_of_pending {bids : List Bid}
    (pending : ∀ b ∈ bids, b.isPending = true) (now : Instant)
    : bids.mapM (fun b => b.setAside now)
      = .ok (bids.map fun b => b.moveTo .notSelected now) := by
  rw [mapM_eq_ok, List.forall₂_map_right_iff, List.forall₂_same]
  intro b member
  exact resolve_of_pending (pending b member) _ _

/-- Bids that are set aside together are each moved from pending. -/
theorem mem_setAside {bids setAside : List Bid} {now : Instant}
    (h : bids.mapM (fun b => b.setAside now) = .ok setAside) {b' : Bid}
    (member : b' ∈ setAside)
    : ∃ b ∈ bids, b.isPending = true ∧ b' = b.moveTo .notSelected now := by
  obtain ⟨i, bound, rfl⟩ := List.getElem_of_mem member
  have each := mapM_eq_ok.1 h
  have length := each.length_eq
  have pending := resolve_eq_ok.1 (each.get (length ▸ bound) bound)
  exact ⟨bids[i], List.getElem_mem _, pending⟩

/-- Bids that are set aside together keep their identifiers. -/
theorem setAside_ids {bids setAside : List Bid} {now : Instant}
    (h : bids.mapM (fun b => b.setAside now) = .ok setAside)
    : setAside.map Bid.id = bids.map Bid.id := by
  have each := mapM_eq_ok.1 h
  clear h
  induction each with
  | nil => rfl
  | cons first rest ih =>
      obtain ⟨-, rfl⟩ := resolve_eq_ok.1 first
      rw [List.map_cons, List.map_cons, ih]
      rfl

/-- Every bid that is set aside together with others has its form among the results. -/
theorem exists_setAside {bids setAside : List Bid} {now : Instant}
    (h : bids.mapM (fun b => b.setAside now) = .ok setAside) {b : Bid} (member : b ∈ bids)
    : ∃ b' ∈ setAside, b'.id = b.id := by
  have listed := List.mem_map_of_mem (f := Bid.id) member
  rw [← setAside_ids h] at listed
  exact List.mem_map.1 listed

end Bid

namespace Ask

theorem isActive_iff {a : Ask} : a.isActive = true ↔ a.status = .active :=
  beq_iff_eq

/-- What is fixed about an ask from its placement on. -/
def origin (a : Ask)
    : AskId × ListingId × CompanyId × UserId × ExecutionMode × Bool × Instant :=
  (a.id, a.listing, a.asker, a.askerUser, a.mode, a.binding, a.revision.createdAt)

/-- The price of an ask, which may be revised. -/
def price (a : Ask) : Amount × Currency × Option Instant :=
  (a.amount, a.currency, a.validUntil)

theorem moveTo_origin (a : Ask) (target : AskStatus) (now : Instant)
    : (a.moveTo target now).origin = a.origin :=
  rfl

theorem moveTo_price (a : Ask) (target : AskStatus) (now : Instant)
    : (a.moveTo target now).price = a.price :=
  rfl

/-- An ask that is placed is a new one on its listing. -/
theorem place_new {listing : ListingId} {actor : Actor} {terms : AskTerms} {now : Instant}
    {make : AskId → Ask} (h : place listing actor terms now = .ok make) (id : AskId)
    : (make id).id = id ∧ (make id).listing = listing
      ∧ (make id).revision = Revision.first now := by
  simp only [place, except_bind_eq_ok] at h
  obtain ⟨-, -, made⟩ := h
  cases made
  exact ⟨rfl, rfl, rfl⟩

theorem place_status {listing : ListingId} {actor : Actor} {terms : AskTerms}
    {now : Instant} {make : AskId → Ask} (h : place listing actor terms now = .ok make)
    (id : AskId)
    : (make id).status = .active := by
  simp only [place, except_bind_eq_ok] at h
  obtain ⟨-, -, made⟩ := h
  cases made
  rfl

/-- An ask is placed by the company of the actor. -/
theorem place_asker {listing : ListingId} {actor : Actor} {terms : AskTerms}
    {now : Instant} {make : AskId → Ask} (h : place listing actor terms now = .ok make)
    (id : AskId)
    : (make id).asker = actor.company := by
  simp only [place, except_bind_eq_ok] at h
  obtain ⟨-, -, made⟩ := h
  cases made
  rfl

/-- The ask with all that an edit gives, once the amount among it is checked. -/
def revised (a : Ask) (u : AskUpdate) (amount : Option Amount) (now : Instant) : Ask :=
  {
    a with
    amount := amount.getD a.amount,
    currency := u.currency.getD a.currency,
    validUntil := u.validUntil <|> a.validUntil,
    revision := a.revision.touch now
  }

/-- An edit of an active ask takes over what is checked, field by field. -/
theorem applyUpdate_of_active {a : Ask} (active : a.isActive = true) (u : AskUpdate)
    (now : Instant)
    : a.applyUpdate u now = (do
        let amount ← u.amount.mapM Amount.make
        u.validUntil.forM fun deadline => checkDeadline deadline now
        return a.revised u amount now) := by
  rw [applyUpdate, revising, InPlace.apply_get_bind, if_neg (by simp [active])]
  simp only [InPlace.apply_check_bind, InPlace.apply_write_bind, InPlace.apply_modify]
  refine bind_congr fun amount => bind_congr fun _ => congrArg Except.ok ?_
  obtain ⟨-, currency, validUntil⟩ := u
  cases amount <;> cases currency <;> cases validUntil <;> rfl

/-- What is no active ask is not edited. -/
theorem applyUpdate_of_not_active {a : Ask} (ended : a.isActive = false) (u : AskUpdate)
    (now : Instant)
    : a.applyUpdate u now = .error (.notActive a.id a.status) := by
  rw [applyUpdate, revising, InPlace.apply_get_bind, if_pos (by simp [ended])]
  rfl

/-- An edit is made exactly if it is of an active ask and all that it gives passes its check. -/
theorem applyUpdate_eq_ok {a a' : Ask} {u : AskUpdate} {now : Instant}
    : a.applyUpdate u now = .ok a'
      ↔ a.isActive = true
        ∧ ∃ amount, u.amount.mapM Amount.make = .ok amount
        ∧ u.validUntil.forM (fun deadline => checkDeadline deadline now) = .ok ()
        ∧ a.revised u amount now = a' := by
  cases active : a.isActive with
  | false => simp [applyUpdate_of_not_active active]
  | true =>
      rw [applyUpdate_of_active active]
      simp [except_bind_eq_ok, pure, Except.pure, Unique.exists_iff]

/-- An update is of an active ask, and concerns its price only. -/
theorem applyUpdate_fixed {a a' : Ask} {u : AskUpdate} {now : Instant}
    (h : a.applyUpdate u now = .ok a')
    : a.status = .active ∧ a'.origin = a.origin := by
  obtain ⟨active, amount, -, -, rfl⟩ := applyUpdate_eq_ok.1 h
  exact ⟨isActive_iff.1 active, rfl⟩

/-- An update touches an ask once and leaves it on its listing. -/
theorem applyUpdate_touch {a a' : Ask} {u : AskUpdate} {now : Instant}
    (h : a.applyUpdate u now = .ok a')
    : a'.id = a.id ∧ a'.listing = a.listing ∧ a'.revision = a.revision.touch now := by
  obtain ⟨-, amount, -, -, rfl⟩ := applyUpdate_eq_ok.1 h
  exact ⟨rfl, rfl, rfl⟩

/-- An update does not move an ask. -/
theorem applyUpdate_status {a a' : Ask} {u : AskUpdate} {now : Instant}
    (h : a.applyUpdate u now = .ok a')
    : a'.status = a.status := by
  obtain ⟨-, amount, -, -, rfl⟩ := applyUpdate_eq_ok.1 h
  rfl

end Ask

end DebtMarket
