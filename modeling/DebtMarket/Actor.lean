import DebtMarket.Status
import DebtMarket.Ident

/-! Actors. An actor is a user who acts for a company in a role; how the actor stands to a
record depends on the company that owns it. The owner's side comes before the role of
administrator.
-/

namespace DebtMarket

/-- A user acting for a company. -/
structure Actor where
  user : UserId
  company : CompanyId
  role : UserRole
deriving DecidableEq, Repr

/-- How an actor stands to a record. -/
inductive Standing where
  | owner
  | admin
  | outsider
deriving DecidableEq, Repr

namespace Standing

instance : Vocabulary Standing where
  noun := "standing"
  members := [.owner, .admin, .outsider]
  word
    | .owner => "owner"
    | .admin => "admin"
    | .outsider => "outsider"

end Standing

namespace Actor

/-- Whether the actor acts for a company. -/
def actsFor (a : Actor) (company : CompanyId) : Bool :=
  a.company == company

/-- Whether the actor is an administrator. -/
def isAdmin (a : Actor) : Bool :=
  a.role.isAdmin

/-- How the actor stands to a record of a company. -/
def standing (a : Actor) (owner : CompanyId) : Standing :=
  if a.actsFor owner then .owner else if a.isAdmin then .admin else .outsider

instance : ToString Actor :=
  ⟨fun a => s!"{a.user}@{a.company} ({word a.role})"⟩

/-- In JSON an actor is a record. -/
instance : Json.Codec Actor where
  encode a :=
    .obj
      [
        ("user_id", Json.encode a.user),
        ("company_id", Json.encode a.company),
        ("role", Json.encode a.role)
      ]
  decode j := do
    let r ← Json.wholeRecord? ["user_id", "company_id", "role"] j
    return {
      user := ← r.read "user_id",
      company := ← r.read "company_id",
      role := ← r.read "role"
    }

end Actor

end DebtMarket
