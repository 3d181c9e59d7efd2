import DebtMarket.Filter
import DebtMarket.Store.Ledger

/-! The store of the market: a table for each kind of record and the ledger of ownership.
A listing is stored only if no other listing offers its instrument while it does.
-/

namespace DebtMarket

instance : Stored Instrument .instrument where
  noun := "Instrument"
  id := Instrument.id
  revision := Instrument.revision

instance : Stored Listing .listing where
  noun := "Listing"
  id := Listing.id
  revision := Listing.revision

instance : Stored Bid .bid where
  noun := "Bid"
  id := Bid.id
  revision := Bid.revision

instance : Stored Ask .ask where
  noun := "Ask"
  id := Ask.id
  revision := Ask.revision

/-- All that the market keeps. -/
structure Store where
  instruments : Table Instrument
  listings : Table Listing
  bids : Table Bid
  asks : Table Ask
  ledger : Ledger
deriving DecidableEq, Repr

namespace Store

/-- The store without records. -/
def empty : Store :=
  {
    instruments := Table.empty,
    listings := Table.empty,
    bids := Table.empty,
    asks := Table.empty,
    ledger := Ledger.empty
  }

/-- The listing that offers an instrument. -/
def openListing? (s : Store) (instrument : InstrumentId) : Option Listing :=
  s.listings.rows.find? fun x => x.offers instrument

/-- Another listing that offers the same instrument. -/
def rival? (s : Store) (x : Listing) : Option Listing :=
  s.listings.rows.find? fun other => other.id != x.id && other.offers x.instrument

/-- A listing of greater version stored in place; one that offers an instrument is refused
while another one does.
-/
def savingListing (x : Listing) : InPlace Store StoreError Unit := do
  let s ← get
  InPlace.check (s.listings.checkVersion x)
  if x.offers x.instrument then
    if let some other := s.rival? x then
      throw
        (.constraint "Listing" (toString x.id)
          s!"instrument {x.instrument} already has open listing {other.id}")
  modify fun s => { s with listings := s.listings.put x }

/-- The instruments of an issuer, oldest first. -/
def issuedBy (s : Store) (issuer : CompanyId) : List Instrument :=
  s.instruments.search fun x => x.issuer == issuer

/-- The listings of an instrument, oldest first. -/
def listingsFor (s : Store) (instrument : InstrumentId) : List Listing :=
  s.listings.search fun x => x.instrument == instrument

/-- The bids on a listing, oldest first. -/
def bidsFor (s : Store) (listing : ListingId) : List Bid :=
  s.bids.search fun b => b.listing == listing

/-- The asks on a listing, oldest first. -/
def asksFor (s : Store) (listing : ListingId) : List Ask :=
  s.asks.search fun a => a.listing == listing

/-- The instruments that a filter accepts, oldest first. -/
def searchInstruments (s : Store) (f : InstrumentFilter) : List Instrument :=
  s.instruments.search f.accepts

/-- The listings that a filter accepts, oldest first. -/
def searchListings (s : Store) (f : ListingFilter) : List Listing :=
  s.listings.search f.accepts

/-- The bids that a filter accepts, oldest first. -/
def searchBids (s : Store) (f : BidFilter) : List Bid :=
  s.bids.search f.accepts

/-- The asks that a filter accepts, oldest first. -/
def searchAsks (s : Store) (f : AskFilter) : List Ask :=
  s.asks.search f.accepts

end Store

end DebtMarket
