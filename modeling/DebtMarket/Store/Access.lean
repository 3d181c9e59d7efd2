import DebtMarket.Store

/-! Access to the store, one indivisible step at a time. A query reads the store and
leaves it as it is; a write either changes the store as a whole or is refused.
-/

namespace DebtMarket

/-- What may be asked of the store. -/
inductive Query where
  | instrument (id : InstrumentId)
  | listing (id : ListingId)
  | openListing (instrument : InstrumentId)
  | bid (id : BidId)
  | bidsFor (listing : ListingId)
  | ask (id : AskId)
  | activeRow (instrument : InstrumentId)
deriving DecidableEq, Repr

namespace Query

/-- What a query is answered with. -/
@[reducible]
def Answer : Query → Type
  | instrument _ => Option Instrument
  | listing _ | openListing _ => Option Listing
  | bid _ => Option Bid
  | bidsFor _ => List Bid
  | ask _ => Option Ask
  | activeRow _ => Option Ownership

end Query

/-- What may be written to the store. -/
inductive Write where
  | instrument (x : Instrument)
  | listing (x : Listing)
  | bid (b : Bid)
  | bids (bids : List Bid)
  | ask (a : Ask)
  | row (row : Ownership)
  | transfer (closing opened : Ownership)
deriving DecidableEq, Repr

namespace Store

/-- The answer to a query. -/
def answer (s : Store) : (q : Query) → q.Answer
  | .instrument id => s.instruments.get? id
  | .listing id => s.listings.get? id
  | .openListing instrument => s.openListing? instrument
  | .bid id => s.bids.get? id
  | .bidsFor listing => s.bidsFor listing
  | .ask id => s.asks.get? id
  | .activeRow instrument => s.ledger.active? instrument

/-- A write in place, to the table or the ledger that it concerns. -/
def writing : Write → InPlace Store StoreError Unit
  | .instrument x =>
      (Table.saving x).within instruments fun s instruments => { s with instruments }
  | .listing x => savingListing x
  | .bid b => (Table.saving b).within bids fun s bids => { s with bids }
  | .bids written => (Table.savingAll written).within bids fun s bids => { s with bids }
  | .ask a => (Table.saving a).within asks fun s asks => { s with asks }
  | .row row => (Ledger.inserting row).within ledger fun s ledger => { s with ledger }
  | .transfer closing opened =>
      (Ledger.transferring closing opened).within ledger fun s ledger => { s with ledger }

/-- The store after a write. -/
def write (s : Store) (w : Write) : Except StoreError Store :=
  (writing w).apply s

end Store

end DebtMarket
