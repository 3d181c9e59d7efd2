import DebtMarket.Actor
import DebtMarket.Fault

/-! The transition policy: for every kind of record, every standing and every status, the
statuses that an actor may move the record to. A move to the present status is no move and
is open to all; every other move has to be in the table.
-/

namespace DebtMarket

/-- Statuses with a table of moves. -/
class Governed (σ : Type) extends Vocabulary σ where
  /-- The kind of record that the statuses belong to. -/
  entity : EntityKind
  /-- The moves that a standing allows out of a status, in order. -/
  moves : Standing → σ → List σ

namespace Policy

/-- An instrument goes from its draft to approval by its owner or an administrator, and
out of approval by an administrator.
-/
def instrumentMoves : Standing → InstrumentStatus → List InstrumentStatus
  | .owner, .draft | .admin, .draft => [.pendingApproval]
  | .admin, .pendingApproval => [.rejected, .active]
  | _, _ => []

/-- A listing is withdrawn by its seller; administrators suspend, close and reopen it, but
neither withdraw an open listing nor reopen a withdrawn one.
-/
def listingMoves : Standing → ListingStatus → List ListingStatus
  | .owner, .opened => [.withdrawn]
  | .admin, .opened => [.suspended, .closed]
  | .admin, .withdrawn => [.suspended, .closed]
  | .admin, .suspended => [.opened, .withdrawn, .closed]
  | .admin, .closed => [.opened, .withdrawn, .suspended]
  | _, _ => []

/-- A bid is withdrawn by its bidder while it is pending; administrators suspend it. -/
def bidMoves : Standing → BidStatus → List BidStatus
  | .owner, .pending => [.withdrawn]
  | .admin, .pending | .admin, .withdrawn => [.suspended]
  | _, _ => []

/-- An ask is withdrawn by its asker; administrators suspend it and bring it back. -/
def askMoves : Standing → AskStatus → List AskStatus
  | .owner, .active => [.withdrawn]
  | .admin, .active | .admin, .withdrawn => [.suspended]
  | .admin, .suspended => [.active]
  | _, _ => []

instance : Governed InstrumentStatus where
  entity := .instrument
  moves := instrumentMoves

instance : Governed ListingStatus where
  entity := .listing
  moves := listingMoves

instance : Governed BidStatus where
  entity := .bid
  moves := bidMoves

instance : Governed AskStatus where
  entity := .ask
  moves := askMoves

/-- What the policy says about a move. -/
inductive Verdict where
  | unchanged
  | permitted
  | denied
deriving DecidableEq, Repr

variable {σ : Type} [Governed σ] [DecidableEq σ]

/-- The verdict on a move from one status to another. -/
def evaluate (standing : Standing) (current target : σ) : Verdict :=
  if current = target then .unchanged
  else if target ∈ Governed.moves standing current then .permitted
  else .denied

/-- Whether a move is not denied. -/
def permits (standing : Standing) (current target : σ) : Bool :=
  evaluate standing current target != .denied

/-- The verdict on a move of a record, where a denied move is refused. -/
def authorize (standing : Standing) (id : Uuid) (current target : σ)
    : Except MarketError Verdict :=
  let verdict := evaluate standing current target
  if verdict = .denied then
    let entity : EntityKind := Governed.entity σ
    .error
      (.forbidden entity id
        (s!"{word standing} may not move {word entity} from {word current} "
          ++ s!"to {word target}"))
  else .ok verdict

end Policy

end DebtMarket
