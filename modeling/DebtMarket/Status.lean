import DebtMarket.Vocabulary

/-! The vocabularies of the market: statuses, roles, reasons and modes, each with its
words and the value that a new record starts from.
-/

namespace DebtMarket

/-- The life of an instrument, from its draft to its end. -/
inductive InstrumentStatus where
  /-- Terms may still be edited. -/
  | draft
  /-- Submitted for approval. -/
  | pendingApproval
  /-- Approved; its maturity is due. -/
  | active
  /-- Refused at approval. -/
  | rejected
  /-- Run to its end. -/
  | matured
  /-- Halted. -/
  | suspended
deriving DecidableEq, Repr

namespace InstrumentStatus

instance : Vocabulary InstrumentStatus where
  noun := "instrument status"
  members := [.draft, .pendingApproval, .active, .rejected, .matured, .suspended]
  word
    | .draft => "DRAFT"
    | .pendingApproval => "PENDING_APPROVAL"
    | .active => "ACTIVE"
    | .rejected => "REJECTED"
    | .matured => "MATURED"
    | .suspended => "SUSPENDED"

instance : Inhabited InstrumentStatus :=
  ⟨.draft⟩

/-- Terms may be edited in a draft only. -/
def isEditable (s : InstrumentStatus) : Bool :=
  s == .draft

end InstrumentStatus

/-- How the payment at maturity stands. -/
inductive MaturityStatus where
  | notDue
  | due
  | inGrace
  | partiallyPaid
  | paid
  | late
  | defaulted
  | disputed
deriving DecidableEq, Repr

namespace MaturityStatus

instance : Vocabulary MaturityStatus where
  noun := "maturity status"
  members := [
    .notDue, .due, .inGrace, .partiallyPaid,
    .paid, .late, .defaulted, .disputed]
  word
    | .notDue => "NOT_DUE"
    | .due => "DUE"
    | .inGrace => "IN_GRACE"
    | .partiallyPaid => "PARTIALLY_PAID"
    | .paid => "PAID"
    | .late => "LATE"
    | .defaulted => "DEFAULTED"
    | .disputed => "DISPUTED"

instance : Inhabited MaturityStatus :=
  ⟨.notDue⟩

end MaturityStatus

/-- How an instrument stands on the market. -/
inductive TradingStatus where
  | draft
  | offMarket
  | listed
  | paused
  | underOffer
deriving DecidableEq, Repr

namespace TradingStatus

instance : Vocabulary TradingStatus where
  noun := "trading status"
  members := [.draft, .offMarket, .listed, .paused, .underOffer]
  word
    | .draft => "DRAFT"
    | .offMarket => "OFF_MARKET"
    | .listed => "LISTED"
    | .paused => "PAUSED"
    | .underOffer => "UNDER_OFFER"

instance : Inhabited TradingStatus :=
  ⟨.draft⟩

end TradingStatus

/-- The life of a listing. Bids and asks move only while it is open. -/
inductive ListingStatus where
  | opened
  | withdrawn
  | suspended
  | closed
deriving DecidableEq, Repr

namespace ListingStatus

instance : Vocabulary ListingStatus where
  noun := "listing status"
  members := [.opened, .withdrawn, .suspended, .closed]
  word
    | .opened => "OPEN"
    | .withdrawn => "WITHDRAWN"
    | .suspended => "SUSPENDED"
    | .closed => "CLOSED"

instance : Inhabited ListingStatus :=
  ⟨.opened⟩

/-- Bids and asks move only on an open listing. -/
def isOpen (s : ListingStatus) : Bool :=
  s == .opened

end ListingStatus

/-- The life of a bid. Every status but the first is final for its bidder. -/
inductive BidStatus where
  | pending
  | withdrawn
  | suspended
  | selected
  | notSelected
deriving DecidableEq, Repr

namespace BidStatus

instance : Vocabulary BidStatus where
  noun := "bid status"
  members := [.pending, .withdrawn, .suspended, .selected, .notSelected]
  word
    | .pending => "PENDING"
    | .withdrawn => "WITHDRAWN"
    | .suspended => "SUSPENDED"
    | .selected => "SELECTED"
    | .notSelected => "NOT_SELECTED"

instance : Inhabited BidStatus :=
  ⟨.pending⟩

/-- A bid that is no longer pending has run its course. -/
def isTerminal (s : BidStatus) : Bool :=
  s != .pending

end BidStatus

/-- The life of an ask. -/
inductive AskStatus where
  | active
  | withdrawn
  | suspended
deriving DecidableEq, Repr

namespace AskStatus

instance : Vocabulary AskStatus where
  noun := "ask status"
  members := [.active, .withdrawn, .suspended]
  word
    | .active => "ACTIVE"
    | .withdrawn => "WITHDRAWN"
    | .suspended => "SUSPENDED"

instance : Inhabited AskStatus :=
  ⟨.active⟩

/-- Only an active ask may be revised. -/
def isActive (s : AskStatus) : Bool :=
  s == .active

end AskStatus

/-- The kinds of records that errors speak of. -/
inductive EntityKind where
  | instrument
  | listing
  | bid
  | ask
  | ownership
deriving DecidableEq, Repr

namespace EntityKind

instance : Vocabulary EntityKind where
  noun := "entity kind"
  members := [.instrument, .listing, .bid, .ask, .ownership]
  word
    | .instrument => "instrument"
    | .listing => "listing"
    | .bid => "bid"
    | .ask => "ask"
    | .ownership => "ownership"

end EntityKind

/-- The role in which a user acts. -/
inductive UserRole where
  | admin
  | buyer
  | seller
  | issuer
deriving DecidableEq, Repr

namespace UserRole

instance : Vocabulary UserRole where
  noun := "user role"
  members := [.admin, .buyer, .seller, .issuer]
  word
    | .admin => "ADMIN"
    | .buyer => "BUYER"
    | .seller => "SELLER"
    | .issuer => "ISSUER"

instance : Inhabited UserRole :=
  ⟨.buyer⟩

/-- Administrators act beyond their own company. -/
def isAdmin (s : UserRole) : Bool :=
  s == .admin

end UserRole

/-- Why a company came to own an instrument. -/
inductive AcquisitionReason where
  | issuance
  | trade
  | assignment
deriving DecidableEq, Repr

namespace AcquisitionReason

instance : Vocabulary AcquisitionReason where
  noun := "acquisition reason"
  members := [.issuance, .trade, .assignment]
  word
    | .issuance => "ISSUANCE"
    | .trade => "TRADE"
    | .assignment => "ASSIGNMENT"

instance : Inhabited AcquisitionReason :=
  ⟨.trade⟩

end AcquisitionReason

/-- Whether an ask is executed by itself or by hand. -/
inductive ExecutionMode where
  | automatic
  | manual
deriving DecidableEq, Repr

namespace ExecutionMode

instance : Vocabulary ExecutionMode where
  noun := "execution mode"
  members := [.automatic, .manual]
  word
    | .automatic => "AUTO"
    | .manual => "MANUAL"

instance : Inhabited ExecutionMode :=
  ⟨.manual⟩

end ExecutionMode

end DebtMarket
