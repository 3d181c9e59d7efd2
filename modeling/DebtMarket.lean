import DebtMarket.Actor
import DebtMarket.Ask
import DebtMarket.Ask.Wire
import DebtMarket.Bid
import DebtMarket.Bid.Wire
import DebtMarket.Calendar.Date
import DebtMarket.Calendar.Instant
import DebtMarket.Calendar.InstantReader
import DebtMarket.Channel
import DebtMarket.Command
import DebtMarket.Config
import DebtMarket.Config.Load
import DebtMarket.Config.Wire
import DebtMarket.Decimal.Basic
import DebtMarket.Decimal.Binary64
import DebtMarket.Decimal.Reader
import DebtMarket.Event
import DebtMarket.Event.Wire
import DebtMarket.Fault
import DebtMarket.Filter
import DebtMarket.Filter.Wire
import DebtMarket.Ident
import DebtMarket.InPlace
import DebtMarket.Instrument
import DebtMarket.Instrument.Wire
import DebtMarket.Json.Basic
import DebtMarket.Json.Codec
import DebtMarket.Json.Number
import DebtMarket.Json.Reader
import DebtMarket.Json.Writer
import DebtMarket.Listing
import DebtMarket.Listing.Wire
import DebtMarket.Lock
import DebtMarket.Lock.Table
import DebtMarket.Market
import DebtMarket.Money
import DebtMarket.Operation
import DebtMarket.Operation.Asking
import DebtMarket.Operation.Bidding
import DebtMarket.Operation.Drafting
import DebtMarket.Operation.Offering
import DebtMarket.Operation.Owning
import DebtMarket.Ownership
import DebtMarket.Ownership.Wire
import DebtMarket.Policy
import DebtMarket.Proofs.Command.Coverage
import DebtMarket.Proofs.Command.Performs
import DebtMarket.Proofs.Floor.Basic
import DebtMarket.Proofs.Floor.Consistency
import DebtMarket.Proofs.Floor.Locking
import DebtMarket.Proofs.Floor.Offers
import DebtMarket.Proofs.Floor.Ownership
import DebtMarket.Proofs.Floor.Runs
import DebtMarket.Proofs.Floor.Selection
import DebtMarket.Proofs.Floor.Serial
import DebtMarket.Proofs.Floor.Serializability
import DebtMarket.Proofs.Floor.Turns
import DebtMarket.Proofs.Floor.Writes
import DebtMarket.Proofs.Lock.Accounts
import DebtMarket.Proofs.Lock.Table
import DebtMarket.Proofs.Market.Failure
import DebtMarket.Proofs.Market.Run
import DebtMarket.Proofs.Operation.Achieves
import DebtMarket.Proofs.Operation.Atomicity
import DebtMarket.Proofs.Operation.Discipline
import DebtMarket.Proofs.Operation.Effect
import DebtMarket.Proofs.Operation.Guarded
import DebtMarket.Proofs.Operation.Laws
import DebtMarket.Proofs.Ownership.Chain
import DebtMarket.Proofs.Ownership.Owner
import DebtMarket.Proofs.Policy
import DebtMarket.Proofs.Record
import DebtMarket.Proofs.Store.Access
import DebtMarket.Proofs.Store.Keeps
import DebtMarket.Proofs.Store.Ledger
import DebtMarket.Proofs.Store.Table
import DebtMarket.Publisher
import DebtMarket.Revision
import DebtMarket.Status
import DebtMarket.Store
import DebtMarket.Store.Access
import DebtMarket.Store.Ledger
import DebtMarket.Store.Table
import DebtMarket.Text.Ascii
import DebtMarket.Text.Blank
import DebtMarket.Text.Digits
import DebtMarket.Text.Quoted
import DebtMarket.Text.Shown
import DebtMarket.Toml.Basic
import DebtMarket.Toml.Entries
import DebtMarket.Toml.Moment
import DebtMarket.Toml.Number
import DebtMarket.Toml.Reader
import DebtMarket.Toml.Text
import DebtMarket.Toml.Value
import DebtMarket.Vocabulary
import DebtMarket.Proofs.Floor.Acceptance
import DebtMarket.Proofs.Command.Issuance
import DebtMarket.Proofs.Floor.Issuance
import DebtMarket.Proofs.Event.Picture
import DebtMarket.Proofs.Command.Telling
import DebtMarket.Proofs.Floor.Chronicle
import DebtMarket.Proofs.Floor.Standstill
import DebtMarket.Proofs.Lock.Exclusion
import DebtMarket.Proofs.Operation.Tidy
import DebtMarket.Proofs.Floor.Progress
import DebtMarket.Proofs.Command.Admission
import DebtMarket.Proofs.Floor.Endings
import DebtMarket.Proofs.Floor.Freshness
import DebtMarket.Proofs.Floor.Sufficiency
import DebtMarket.Proofs.Command.Changes
import DebtMarket.Proofs.Floor.Forms
import DebtMarket.Proofs.Floor.Resolution
import DebtMarket.Proofs.Floor.OrderBook
import DebtMarket.Proofs.Floor.Approval
import DebtMarket.Proofs.Floor.Entitlement
import DebtMarket.Proofs.Store.Entities
import DebtMarket.Proofs.Store.Parts
import DebtMarket.Proofs.Store.View
import DebtMarket.Proofs.Store.Live
import DebtMarket.Proofs.Market.Writers
import DebtMarket.Proofs.Operation.Dating
import DebtMarket.Proofs.Command.Footprint
import DebtMarket.Proofs.Command.Effect
import DebtMarket.Proofs.Command.Deleted
import DebtMarket.Proofs.Command.Locality
import DebtMarket.Proofs.Command.Books
import DebtMarket.Proofs.Store.RowOrder
import DebtMarket.Proofs.Operation.RowOrder
import DebtMarket.Proofs.Floor.Independence
import DebtMarket.Proofs.Floor.Sellers
import DebtMarket.Proofs.Floor.RowOrder
import DebtMarket.Proofs.Floor.Audience
import DebtMarket.Proofs.Floor.Cascade
import DebtMarket.Proofs.Floor.Transitions
import DebtMarket.Proofs.Store.Rivals
import DebtMarket.Proofs.Operation.Rules
import DebtMarket.Proofs.Command.Moves
import DebtMarket.Proofs.Command.Rules
import DebtMarket.Proofs.Floor.Rejections
import DebtMarket.Proofs.Market.Writing
import DebtMarket.Proofs.Ownership.Guard
import DebtMarket.Proofs.Ownership.Endurance
import DebtMarket.Proofs.Market.OpenListings
import DebtMarket.Proofs.Ownership.Views
import DebtMarket.Proofs.Floor.Views
import DebtMarket.Proofs.Market.Batches
import DebtMarket.Proofs.Measures
import DebtMarket.Proofs.Store.Searches
import DebtMarket.Proofs.Edits
import DebtMarket.Proofs.Lock.Lines
import DebtMarket.Proofs.Market.Reading
import DebtMarket.Proofs.Command.Repeats
import DebtMarket.Proofs.Floor.Retries
import DebtMarket.Proofs.Delivery
import DebtMarket.Proofs.Lock.Bounds
import DebtMarket.Proofs.Config.Overrides
import DebtMarket.Proofs.Text.Digits
import DebtMarket.Proofs.Text.Trim
import DebtMarket.Proofs.Decimal.Text
import DebtMarket.Proofs.Calendar.Text
import DebtMarket.Proofs.Ident
import DebtMarket.Proofs.Money
import DebtMarket.Proofs.Currency
import DebtMarket.Proofs.Json.Order
import DebtMarket.Proofs.Json.Exact
import DebtMarket.Proofs.Json.Lossless
import DebtMarket.Proofs.Json.Entities
import DebtMarket.Proofs.Json.Requests
import DebtMarket.Proofs.Json.Events
import DebtMarket.Proofs.Json.Wire
