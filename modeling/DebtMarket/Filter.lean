import DebtMarket.Ask
import DebtMarket.Bid
import DebtMarket.Instrument
import DebtMarket.Listing

/-! Filters. A filter holds criteria that a record has to meet all at once: a criterion
that is not set is met by every record, so is an empty list of identifiers, and ranges
hold both their ends.
-/

namespace DebtMarket

namespace Criterion

/-- Whether a set criterion is met. -/
def meets {α : Type} (criterion : Option α) (test : α → Bool) : Bool :=
  criterion.all test

/-- Whether an identifier is in a list, where the empty list admits all. -/
def admits {α : Type} [BEq α] (allowed : List α) (a : α) : Bool :=
  allowed.isEmpty || allowed.contains a

/-- Whether a rank lies in a range with both ends. -/
def within (rank : Int) (least greatest : Option Int) : Bool :=
  least.all (· ≤ rank) && greatest.all (rank ≤ ·)

end Criterion

/-- Criteria on instruments. -/
structure InstrumentFilter where
  status : Option InstrumentStatus
  maturityStatus : Option MaturityStatus
  currency : Option Currency
  minFaceValue : Option Decimal
  maxFaceValue : Option Decimal
  minMaturityPayment : Option Decimal
  maxMaturityPayment : Option Decimal
  maturityDateAfter : Option Date
  maturityDateBefore : Option Date
  createdAtAfter : Option Instant
  createdAtBefore : Option Instant
  issuers : List CompanyId
  createdBy : List UserId
deriving DecidableEq, Repr

/-- Criteria on listings. -/
structure ListingFilter where
  status : Option ListingStatus
  instrument : Option InstrumentId
  sellers : List CompanyId
  creators : List UserId
deriving DecidableEq, Repr

/-- Criteria on bids. -/
structure BidFilter where
  listing : Option ListingId
  status : Option BidStatus
  bidders : List CompanyId
  bidderUsers : List UserId
  currency : Option Currency
  minAmount : Option Decimal
  maxAmount : Option Decimal
deriving DecidableEq, Repr

/-- Criteria on asks. -/
structure AskFilter where
  listing : Option ListingId
  status : Option AskStatus
  askers : List CompanyId
  askerUsers : List UserId
  currency : Option Currency
  mode : Option ExecutionMode
  binding : Option Bool
  minAmount : Option Decimal
  maxAmount : Option Decimal
deriving DecidableEq, Repr

open Criterion

namespace InstrumentFilter

/-- Whether an instrument meets every criterion. -/
def accepts (f : InstrumentFilter) (x : Instrument) : Bool :=
  meets f.status (x.status == ·)
    && meets f.maturityStatus (x.maturityStatus == ·)
    && meets f.currency (x.currency == ·)
    && within x.faceValue.decimal.value (f.minFaceValue.map Decimal.value)
      (f.maxFaceValue.map Decimal.value)
    && within x.maturityPayment.decimal.value (f.minMaturityPayment.map Decimal.value)
      (f.maxMaturityPayment.map Decimal.value)
    && within x.maturityDate.rank (f.maturityDateAfter.map Date.rank)
      (f.maturityDateBefore.map Date.rank)
    && within x.revision.createdAt.rank (f.createdAtAfter.map Instant.rank)
      (f.createdAtBefore.map Instant.rank)
    && admits f.issuers x.issuer
    && admits f.createdBy x.createdBy

end InstrumentFilter

namespace ListingFilter

/-- Whether a listing meets every criterion. -/
def accepts (f : ListingFilter) (x : Listing) : Bool :=
  meets f.status (x.status == ·)
    && meets f.instrument (x.instrument == ·)
    && admits f.sellers x.seller
    && admits f.creators x.creator

end ListingFilter

namespace BidFilter

/-- Whether a bid meets every criterion. -/
def accepts (f : BidFilter) (b : Bid) : Bool :=
  meets f.listing (b.listing == ·)
    && meets f.status (b.status == ·)
    && admits f.bidders b.bidder
    && admits f.bidderUsers b.bidderUser
    && meets f.currency (b.currency == ·)
    && within b.amount.decimal.value (f.minAmount.map Decimal.value)
      (f.maxAmount.map Decimal.value)

end BidFilter

namespace AskFilter

/-- Whether an ask meets every criterion. -/
def accepts (f : AskFilter) (a : Ask) : Bool :=
  meets f.listing (a.listing == ·)
    && meets f.status (a.status == ·)
    && admits f.askers a.asker
    && admits f.askerUsers a.askerUser
    && meets f.currency (a.currency == ·)
    && meets f.mode (a.mode == ·)
    && meets f.binding (a.binding == ·)
    && within a.amount.decimal.value (f.minAmount.map Decimal.value)
      (f.maxAmount.map Decimal.value)

end AskFilter

end DebtMarket
