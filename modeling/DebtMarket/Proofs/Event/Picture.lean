import Mathlib.Data.List.Nodup
import DebtMarket.Event

/-! The picture that events draw. Whoever hears of nothing but the events knows, of every
record, the status that the last event about it has told, and of every instrument the owner.
An event agrees with such a picture if it tells a change, and tells it of what was known
before.
-/

namespace DebtMarket

/-- What events tell about. -/
inductive Subject where
  | instrument (id : InstrumentId)
  /-- Who owns an instrument. -/
  | owner (id : InstrumentId)
  | listing (id : ListingId)
  | bid (id : BidId)
  | ask (id : AskId)
deriving DecidableEq, Repr

namespace Subject

/-- What is told about a subject: the status of a record, or the owner of an instrument. -/
@[reducible]
def Fact : Subject → Type
  | instrument _ => InstrumentStatus
  | owner _ => CompanyId
  | listing _ => ListingStatus
  | bid _ => BidStatus
  | ask _ => AskStatus

end Subject

/-- A fact about a subject. -/
structure News where
  subject : Subject
  fact : subject.Fact

namespace Happening

/-- What a change tells: a new record has its first status, a record that was moved has the
status that it was moved to, and of the bids on a listing one is selected and others are set
aside.
-/
def news : Happening → List News
  | instrumentCreated id _ => [⟨.instrument id, .draft⟩]
  | instrumentStatusChanged id _ after _ => [⟨.instrument id, after⟩]
  | ownershipIssued id _ owner => [⟨.owner id, owner⟩]
  | ownershipTransferred id _ _ toOwner _ => [⟨.owner id, toOwner⟩]
  | listingOpened id _ _ => [⟨.listing id, .opened⟩]
  | listingStatusChanged id _ after => [⟨.listing id, after⟩]
  | bidPlaced id _ _ => [⟨.bid id, .pending⟩]
  | bidStatusChanged id _ _ after => [⟨.bid id, after⟩]
  | bidSelected id _ setAside =>
      ⟨.bid id, .selected⟩ :: setAside.map fun other => ⟨.bid other, .notSelected⟩
  | askPlaced id _ => [⟨.ask id, .active⟩]
  | askStatusChanged id _ _ after => [⟨.ask id, after⟩]
  | askRevised .. => []

/-- What a change tells about. -/
def subjects (h : Happening) : List Subject :=
  h.news.map News.subject

/-- The ask that a change revised without moving it. -/
def revises? : Happening → Option AskId
  | askRevised id _ => some id
  | _ => none

end Happening

/-- What is known about every subject. -/
@[reducible]
def Picture : Type :=
  (x : Subject) → Option x.Fact

namespace Picture

/-- Nothing is known. -/
def empty : Picture :=
  fun _ => none

/-- The picture in which a fact has taken the place of what was known before. -/
def learn (p : Picture) (n : News) : Picture :=
  Function.update p n.subject (some n.fact)

/-- The picture after a change was told. -/
def after (p : Picture) (h : Happening) : Picture :=
  h.news.foldl learn p

/-- The picture after changes were told, in order. -/
def afterAll (p : Picture) (told : List Happening) : Picture :=
  told.foldl after p

end Picture

namespace Happening

/-- A change agrees with a picture: it tells of new records, or moves records that it knows
the status of to another one; bids are resolved while they are pending, each of them once,
and asks are revised while they are active.
-/
def Agrees (p : Picture) : Happening → Prop
  | instrumentCreated id _ => p (.instrument id) = none
  | instrumentStatusChanged id before after _ =>
      p (.instrument id) = some before ∧ before ≠ after
  | ownershipIssued id _ _ => p (.owner id) = none
  | ownershipTransferred id _ fromOwner toOwner _ =>
      p (.owner id) = some fromOwner ∧ fromOwner ≠ toOwner
  | listingOpened id _ _ => p (.listing id) = none
  | listingStatusChanged id before after => p (.listing id) = some before ∧ before ≠ after
  | bidPlaced id _ _ => p (.bid id) = none
  | bidStatusChanged id _ before after => p (.bid id) = some before ∧ before ≠ after
  | bidSelected id _ setAside =>
      (id :: setAside).Nodup ∧ ∀ b ∈ id :: setAside, p (.bid b) = some .pending
  | askPlaced id _ => p (.ask id) = none
  | askStatusChanged id _ before after => p (.ask id) = some before ∧ before ≠ after
  | askRevised id _ => p (.ask id) = some .active

end Happening

namespace Picture

/-- Changes follow a picture: each of them agrees with the picture just before it. -/
def Follows (p : Picture) : List Happening → Prop
  | [] => True
  | h :: rest => h.Agrees p ∧ (p.after h).Follows rest

variable {p : Picture} {x : Subject}

theorem afterAll_append (p : Picture) (told later : List Happening)
    : p.afterAll (told ++ later) = (p.afterAll told).afterAll later :=
  List.foldl_append

/-- What follows a picture may be continued by what follows the picture after it, by
induction on what comes first.
-/
theorem follows_append {told later : List Happening}
    : p.Follows (told ++ later) ↔ p.Follows told ∧ (p.afterAll told).Follows later := by
  induction told generalizing p with
  | nil => exact (iff_of_eq (true_and _)).symm
  | cons h rest ih =>
      simp only [List.cons_append, Follows, ih, afterAll, List.foldl_cons, and_assoc]

-----------------------------------------------------------------------------------------
-- What the picture shows after news
-----------------------------------------------------------------------------------------

/-- News do not change what is known about other subjects, by induction on them. -/
theorem learnAll_other {news : List News} (other : x ∉ news.map News.subject)
    : news.foldl learn p x = p x := by
  induction news generalizing p with
  | nil => rfl
  | cons n rest ih =>
      obtain ⟨here, later⟩ := not_or.1 (mt List.mem_cons.2 other)
      rw [List.foldl_cons, ih later, learn, Function.update_of_ne here]

/-- News about different subjects are all known afterwards, by induction on them. -/
theorem learnAll_mem {news : List News} (once : (news.map News.subject).Nodup) {n : News}
    (member : n ∈ news)
    : news.foldl learn p n.subject = some n.fact := by
  induction news generalizing p with
  | nil => cases member
  | cons first rest ih =>
      obtain ⟨apart, once⟩ := List.nodup_cons.1 once
      rw [List.foldl_cons]
      rcases List.mem_cons.1 member with rfl | member
      · rw [learnAll_other apart, learn, Function.update_self]
      · exact ih once member

theorem after_other {h : Happening} (other : x ∉ h.subjects) : p.after h x = p x :=
  learnAll_other other

end Picture

namespace Happening.Agrees

variable {p : Picture} {h : Happening}

/-- A change tells about no subject twice, by cases on the change. -/
theorem once (agrees : h.Agrees p) : h.subjects.Nodup := by
  cases h with
  | bidSelected id listing setAside =>
      obtain ⟨distinct, -⟩ := agrees
      have subjects : (bidSelected id listing setAside).subjects
          = (id :: setAside).map Subject.bid := by
        simp [Happening.subjects, news, Function.comp_def]
      rw [subjects]
      exact distinct.map fun b b' same => Subject.bid.inj same
  | askRevised id listing => exact List.nodup_nil
  | _ => exact List.nodup_singleton _

/-- What a change tells was not known before, by cases on the change. -/
theorem unknown (agrees : h.Agrees p) {n : News} (member : n ∈ h.news)
    : p n.subject ≠ some n.fact := by
  cases h with
  | bidSelected id listing setAside =>
      obtain ⟨-, pending⟩ := agrees
      rcases List.mem_cons.1 member with rfl | member
      · rw [pending id List.mem_cons_self]
        nofun
      · obtain ⟨other, aside, rfl⟩ := List.mem_map.1 member
        rw [pending other (List.mem_cons_of_mem id aside)]
        nofun
  | askRevised id listing => cases member
  | instrumentStatusChanged | ownershipTransferred | listingStatusChanged | bidStatusChanged
  | askStatusChanged =>
      obtain ⟨known, other⟩ := agrees
      cases List.mem_singleton.1 member
      rw [known]
      exact fun same => other (Option.some.inj same)
  | instrumentCreated | ownershipIssued | listingOpened | bidPlaced | askPlaced =>
      cases List.mem_singleton.1 member
      rw [agrees]
      nofun

/-- The subjects of a change are those that the picture changes at. -/
theorem changes (agrees : h.Agrees p) (x : Subject)
    : x ∈ h.subjects ↔ p.after h x ≠ p x := by
  constructor
  · intro member
    obtain ⟨n, told, rfl⟩ := List.mem_map.1 member
    rw [Picture.after, Picture.learnAll_mem agrees.once told]
    exact (agrees.unknown told).symm
  · intro differs
    by_contra other
    exact differs (Picture.after_other other)

end Happening.Agrees

end DebtMarket
