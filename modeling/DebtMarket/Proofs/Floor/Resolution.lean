import DebtMarket.Proofs.Floor.Forms
import DebtMarket.Proofs.Floor.Selection

/-! The history of a bid. A bid is placed pending and is moved at most twice: it is answered or
suspended once and for all, or it is withdrawn and may still be suspended. Each of its forms
has a status of its own, so its version tells how many there were, and a bid that was answered
is never written again.
-/

namespace DebtMarket

namespace Bid

/-- The ways from one status of a bid to another: out of the pending one to any other, and out
of withdrawal to suspension.
-/
inductive Leads : BidStatus → BidStatus → Prop
  | onward {target} (other : target ≠ .pending) : Leads .pending target
  | halted : Leads .withdrawn .suspended

/-- The histories that a bid may have. -/
def histories : List (List BidStatus) :=
  [
    [.pending],
    [.pending, .selected],
    [.pending, .notSelected],
    [.pending, .suspended],
    [.pending, .withdrawn],
    [.pending, .withdrawn, .suspended]
  ]

/-- Statuses that begin with the pending one and lead from each to the next are one of these
histories: no way leads on from a third one.
-/
theorem mem_histories {statuses : List BidStatus} (first : statuses.head? = some .pending)
    (next : statuses.IsChain Leads)
    : statuses ∈ histories := by
  cases statuses with
  | nil => cases first
  | cons status rest =>
      obtain rfl : status = .pending := Option.some.inj first
      cases rest with
      | nil => decide
      | cons second rest =>
          obtain ⟨lead, tail⟩ := List.isChain_cons_cons.1 next
          cases lead with
          | onward other =>
              cases rest with
              | nil =>
                  -- any status but the pending one may come second
                  cases second <;> first | decide | exact absurd rfl other
              | cons third rest =>
                  obtain ⟨lead', tail'⟩ := List.isChain_cons_cons.1 tail
                  cases lead' with
                  | onward => exact absurd rfl other
                  | halted =>
                      cases rest with
                      | nil => decide
                      | cons fourth rest => nomatch (List.isChain_cons_cons.1 tail').1

end Bid

/-- Whatever a command makes of a bid leads on from its status. -/
theorem Command.AltersBid.leads {s : Store} {c : Command} {b b' : Bid}
    (h : c.AltersBid s b b')
    : Bid.Leads b.status b'.status := by
  cases h with
  | move listed =>
      rcases Policy.mem_bidMoves_iff.1 listed with
        ⟨-, pending, rfl⟩ | ⟨-, pending | withdrawn, rfl⟩
      · exact pending ▸ .onward nofun
      · exact pending ▸ .onward nofun
      · exact withdrawn ▸ .halted
  | select listed seller pending => exact pending ▸ .onward nofun
  | setAside stored other same listed seller pending => exact pending ▸ .onward nofun
  | reject listed seller pending => exact pending ▸ .onward nofun

namespace Floor

variable {f : Floor}

/-- A bid is placed pending in its first version, and every change leads on from its status to
its next version.
-/
theorem evolving_bid (id : BidId)
    : Evolving (fun s => s.bids.get? id)
        (fun b => Table.version b = 1 ∧ b.status = .pending)
        (fun b b' => Table.Supersedes b' b ∧ Bid.Leads b.status b'.status) := by
  refine evolving_table (fun _ _ _ => Command.Yields.bids) ?_ ?_ id
  · rintro s c b ⟨⟩
    rfl
  · exact fun s c b b' alters => alters.leads

/-- A bid that was answered stays as it is, since no way leads on from its status. -/
theorem Consistent.answered_stays (h : f.Consistent) {id : BidId} {b : Bid}
    (found : f.market.store.bids.get? id = some b)
    (answered : b.status = .selected ∨ b.status = .notSelected) (later : List Turn)
    : (f.run later).market.store.bids.get? id = some b := by
  have final (target : BidStatus) : ¬Bid.Leads b.status target := by
    intro lead
    rcases answered with status | status <;> rw [status] at lead <;> cases lead
  have kept (c d : Bid) (how : Table.Supersedes d c ∧ Bid.Leads c.status d.status)
      (same : c = b)
      : d = b :=
    absurd (same ▸ how.2) (final d.status)
  obtain ⟨c, stored, rfl⟩ := (evolving_bid id).run h kept found rfl later
  exact stored

/-- Over every schedule from a market without records, the statuses of a stored bid are one of
the histories, and its version is their number; a bid that was answered is the same at every
later moment.
-/
theorem bids_resolved_once (clock : Instant) (threshold : Nat) (outlet : Outlet)
    (source : IdKind → Nat → Uuid) (schedule : List Turn) (id : BidId)
    : let f := start clock threshold outlet source
      let bid? moment := (f.run moment).market.store.bids.get? id
      let statuses := (f.forms (fun s => s.bids.get? id) schedule).map Bid.status
      match bid? schedule with
      | none => statuses = []
      | some b =>
          statuses ∈ Bid.histories
          ∧ statuses.getLast? = some b.status
          ∧ b.revision.version.toNat = statuses.length
          ∧ (b.status = .selected ∨ b.status = .notSelected
            → ∀ later, bid? (schedule ++ later) = some b) := by
  intro f bid? statuses
  have consistent : f.Consistent := consistent_start clock threshold outlet source
  obtain ⟨course, last⟩ := (evolving_bid id).forms_of_none consistent rfl schedule
  cases found : bid? schedule with
  | none =>
      have empty := List.getLast?_eq_none_iff.1 (last.trans found)
      simp only [statuses, empty, List.map_nil]
  | some b =>
      have ends := last.trans found
      refine ⟨Bid.mem_histories ?_ ?_, ?_, ?_, ?_⟩
      · obtain ⟨first, head, -, pending⟩ := course.exists_first ends
        rw [List.head?_map, head, Option.map_some, pending]
      · exact List.isChain_map_of_isChain _ (fun a b link => link.2) course.next
      · rw [List.getLast?_map, ends, Option.map_some]
      · rw [List.length_map]
        exact course.reaches (P := fun n b => b.revision.version.toNat = n) (fun b made => made.1)
          (fun n a b turned same => same ▸ turned.1.version) ends
      · intro answered later
        simp only [bid?, run_append]
        exact (consistent.run schedule).answered_stays found answered later

/-- The first of two bids that are accepted one after the other is selected once. -/
example
    : (Sample.opened.forms (fun s => s.bids.get? ⟨⟨0⟩⟩) (Sample.inTurn Sample.acceptances)).map
        Bid.status
      = [.pending, .selected] := by
  cbv

end Floor

end DebtMarket
