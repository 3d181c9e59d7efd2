/-! Changes in place. A change reads and writes one value, step by step, and may be refused on
its way; what it wrote until then stays written.
-/

namespace DebtMarket

/-- A change of a value in place: its steps with an answer, or a refusal between two of them. -/
abbrev InPlace (σ ε α : Type) : Type :=
  ExceptT ε (StateM σ) α

namespace InPlace

variable {σ τ ε α : Type}

/-- What a change answers, and what the value is afterwards. -/
def tried (change : InPlace σ ε α) (s : σ) : Except ε α × σ :=
  change.run.run s

/-- The value after a change, for those who have no use for it when the change is refused. -/
def apply (change : InPlace σ ε Unit) (s : σ) : Except ε σ :=
  match change.tried s with
  | (.ok (), s) => .ok s
  | (.error e, _) => .error e

/-- The outcome of a rule, which neither reads nor writes the value. -/
def check (outcome : Except ε α) : InPlace σ ε α :=
  ExceptT.mk (pure outcome)

/-- A field written if a value for it is given. -/
def write (given : Option α) (field : α → σ → σ) : InPlace σ ε Unit :=
  given.forM fun a => modify (field a)

/-- A change of a part of a value. -/
def within (part : σ → τ) (withPart : σ → τ → σ) (change : InPlace τ ε α)
    : InPlace σ ε α :=
  ExceptT.mk fun s =>
    let (answer, t) := change.tried (part s)
    (answer, withPart s t)

end InPlace

end DebtMarket
