import DebtMarket.Policy

/-! What the transition policy lets pass. A move that is not denied is no move or one of the
table, and a denied one is forbidden; an active instrument is never moved again, nor is a bid
that was resolved, and no move resolves a bid. Who may make which move is said for each kind
of record once.
-/

namespace DebtMarket

namespace Actor

/-- An administrator oversees the records of all companies but the own one. -/
def Oversees (a : Actor) (company : CompanyId) : Prop :=
  a.role = .admin ∧ a.company ≠ company

variable {a : Actor} {company : CompanyId}

theorem actsFor_iff : a.actsFor company = true ↔ a.company = company :=
  beq_iff_eq

theorem actsFor_eq_false : a.actsFor company = false ↔ a.company ≠ company :=
  beq_eq_false_iff_ne

theorem standing_eq_owner : a.standing company = .owner ↔ a.company = company := by
  rw [← actsFor_iff, standing]
  cases a.actsFor company <;> cases a.isAdmin <;> decide

theorem standing_eq_admin : a.standing company = .admin ↔ a.Oversees company := by
  have admin : a.isAdmin = true ↔ a.role = .admin := beq_iff_eq
  rw [Oversees, ← admin, ← actsFor_eq_false, standing]
  cases a.actsFor company <;> cases a.isAdmin <;> decide

end Actor

namespace Policy

variable {σ : Type} [Governed σ] [DecidableEq σ]

/-- A move is authorized exactly if it is no move or stands in the table. -/
theorem authorize_eq_ok {standing : Standing} {id : Uuid} {current target : σ}
    {verdict : Verdict}
    : authorize standing id current target = .ok verdict
      ↔ (current = target ∨ target ∈ Governed.moves standing current)
        ∧ verdict = evaluate standing current target := by
  unfold authorize evaluate
  by_cases same : current = target
  · simp [same, eq_comm]
  · by_cases listed : target ∈ Governed.moves standing current
    · simp [same, listed, eq_comm]
    · simp [same, listed]

/-- A move to another status that is authorized stands in the table. -/
theorem mem_moves {standing : Standing} {id : Uuid} {current target : σ} {verdict : Verdict}
    (other : current ≠ target)
    (permitted : authorize standing id current target = .ok verdict)
    : target ∈ Governed.moves standing current :=
  (authorize_eq_ok.1 permitted).1.resolve_left other

/-- A move that is not authorized is forbidden. -/
theorem authorize_eq_error {standing : Standing} {id : Uuid} {current target : σ}
    {e : MarketError} (h : authorize standing id current target = .error e)
    : ∃ reason, e = .forbidden (Governed.entity σ) id reason := by
  by_cases denied : evaluate standing current target = .denied
  · rw [authorize, if_pos denied] at h
    cases h
    exact ⟨_, rfl⟩
  · rw [authorize, if_neg denied] at h
    cases h

/-- An active instrument is not moved any more. -/
theorem mem_instrumentMoves {standing : Standing} {current target : InstrumentStatus}
    (h : target ∈ instrumentMoves standing current)
    : current ≠ .active := by
  rintro rfl
  cases standing <;> cases h

/-- A bid is moved out of pending or withdrawn only, and never resolved by a move. -/
theorem mem_bidMoves {standing : Standing} {current target : BidStatus}
    (h : target ∈ bidMoves standing current)
    : current ≠ .selected ∧ target ≠ .selected ∧ target ≠ .pending := by
  cases standing <;> cases current <;> simp [bidMoves] at h <;> subst h <;> decide

/-- An instrument is submitted by its owner or an administrator, and decided on by an
administrator.
-/
theorem mem_instrumentMoves_iff {standing : Standing} {current target : InstrumentStatus}
    : target ∈ instrumentMoves standing current
      ↔ standing ≠ .outsider ∧ current = .draft ∧ target = .pendingApproval
        ∨ standing = .admin ∧ current = .pendingApproval
          ∧ (target = .active ∨ target = .rejected) := by
  cases standing <;> cases current <;> cases target <;> decide

/-- An open listing is withdrawn by its owner; all other moves are those of administrators,
who neither withdraw an open listing nor open a withdrawn one.
-/
theorem mem_listingMoves_iff {standing : Standing} {current target : ListingStatus}
    : target ∈ listingMoves standing current
      ↔ standing = .owner ∧ current = .opened ∧ target = .withdrawn
        ∨ standing = .admin ∧ current ≠ target
          ∧ ¬(current = .opened ∧ target = .withdrawn)
          ∧ ¬(current = .withdrawn ∧ target = .opened) := by
  cases standing <;> cases current <;> cases target <;> decide

/-- A pending bid is withdrawn by its owner; administrators suspend a bid that is pending or
withdrawn.
-/
theorem mem_bidMoves_iff {standing : Standing} {current target : BidStatus}
    : target ∈ bidMoves standing current
      ↔ standing = .owner ∧ current = .pending ∧ target = .withdrawn
        ∨ standing = .admin ∧ (current = .pending ∨ current = .withdrawn)
          ∧ target = .suspended := by
  cases standing <;> cases current <;> cases target <;> decide

/-- An active ask is withdrawn by its owner; administrators suspend an ask that is active or
withdrawn, and bring a suspended one back.
-/
theorem mem_askMoves_iff {standing : Standing} {current target : AskStatus}
    : target ∈ askMoves standing current
      ↔ standing = .owner ∧ current = .active ∧ target = .withdrawn
        ∨ standing = .admin
          ∧ ((current = .active ∨ current = .withdrawn) ∧ target = .suspended
            ∨ current = .suspended ∧ target = .active) := by
  cases standing <;> cases current <;> cases target <;> decide

end Policy

end DebtMarket
