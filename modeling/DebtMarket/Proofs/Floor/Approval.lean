import DebtMarket.Proofs.Floor.Forms

/-! The approval of instruments. An instrument is drafted, submitted and decided on, once and
for all, by an administrator of another company than the issuer's. It is due exactly if it was
approved; its terms are settled when it is submitted. Every edit and every move that a run
commits raises its version by one, and nothing else does.
-/

namespace DebtMarket

namespace Instrument

/-- The ways from one status of an instrument to another. -/
inductive Leads : InstrumentStatus → InstrumentStatus → Prop
  | submitted : Leads .draft .pendingApproval
  | approved : Leads .pendingApproval .active
  | refused : Leads .pendingApproval .rejected

/-- Statuses that begin with the draft and lead from each to the next are those of an approval
or of a refusal, or the first of them: no way leads on from a decision.
-/
theorem prefix_of_leads {statuses : List InstrumentStatus}
    (first : ∀ status, statuses.head? = some status → status = .draft)
    (next : statuses.IsChain Leads)
    : statuses <+: [.draft, .pendingApproval, .active]
      ∨ statuses <+: [.draft, .pendingApproval, .rejected] := by
  cases statuses with
  | nil => decide
  | cons status rest =>
      obtain rfl := first status rfl
      cases rest with
      | nil => decide
      | cons second rest =>
          obtain ⟨lead, tail⟩ := List.isChain_cons_cons.1 next
          cases lead with
          | submitted =>
              cases rest with
              | nil => decide
              | cons third rest =>
                  obtain ⟨lead', tail'⟩ := List.isChain_cons_cons.1 tail
                  cases rest with
                  | nil => cases lead' <;> decide
                  | cons fourth rest =>
                      have lead'' := (List.isChain_cons_cons.1 tail').1
                      cases lead' <;> cases lead''

/-- An instrument is due exactly if it is active. -/
def DueIfActive (x : Instrument) : Prop :=
  x.maturityStatus = if x.status = .active then .due else .notDue

end Instrument

namespace Command

/-- The commands that edit or move an instrument. -/
inductive Revises (id : InstrumentId) : Command → Prop
  | edit {actor update} : Revises id (.updateDraft id actor update)
  | move {target actor} : Revises id (.moveInstrument id target actor)

variable {c : Command} {x x' : Instrument}

/-- An instrument is drafted without a payment due. -/
theorem Drafts.draft_notDue (h : c.Drafts x)
    : x.status = .draft ∧ x.maturityStatus = .notDue := by
  cases h with
  | draft checked =>
      exact ⟨Instrument.draft_status checked _, Instrument.draft_maturityStatus checked _⟩

namespace AltersInstrument

/-- No command changes what is fixed about an instrument. -/
theorem origin (h : c.AltersInstrument x x') : x'.origin = x.origin := by
  cases h with
  | edit issuer applied => exact (Instrument.applyUpdate_fixed applied).2.1
  | move listed => exact Instrument.moveTo_origin _ _ _

theorem revises (h : c.AltersInstrument x x') : c.Revises x.id := by
  cases h with
  | edit issuer applied => exact .edit
  | move listed => exact .move

/-- Whatever a command makes of an instrument leaves its status or leads on from it. -/
theorem leads (h : c.AltersInstrument x x')
    : x'.status = x.status ∨ Instrument.Leads x.status x'.status := by
  cases h with
  | edit issuer applied => exact .inl (Instrument.applyUpdate_status applied)
  | move listed =>
      right
      rcases Policy.mem_instrumentMoves_iff.1 listed with
        ⟨-, draft, rfl⟩ | ⟨-, pending, rfl | rfl⟩
      · exact draft ▸ .submitted
      · exact pending ▸ .approved
      · exact pending ▸ .refused

/-- An instrument that is not a draft any more keeps its terms and does not become a draft. -/
theorem settled (h : c.AltersInstrument x x') (submitted : x.status ≠ .draft)
    : x'.status ≠ .draft ∧ x'.terms = x.terms := by
  cases h with
  | edit issuer applied => exact absurd (Instrument.applyUpdate_fixed applied).1 submitted
  | move listed =>
      refine ⟨?_, Instrument.moveTo_terms _ _ _⟩
      rcases Policy.mem_instrumentMoves_iff.1 listed with ⟨-, -, rfl⟩ | ⟨-, -, rfl | rfl⟩ <;>
        exact nofun

/-- An instrument stays due exactly if it is active: no command moves an active one. -/
theorem dueIfActive (h : c.AltersInstrument x x') (before : x.DueIfActive)
    : x'.DueIfActive := by
  cases h with
  | edit issuer applied =>
      rw [Instrument.DueIfActive, Instrument.applyUpdate_status applied,
        (Instrument.applyUpdate_fixed applied).2.2]
      exact before
  | @move actor x target now listed =>
      have inactive := Policy.mem_instrumentMoves listed
      rw [Instrument.DueIfActive, if_neg inactive] at before
      rw [Instrument.DueIfActive, Instrument.moveTo, before]

/-- An instrument is decided on by the move of an administrator of another company. -/
theorem decided (h : c.AltersInstrument x x') (other : x.status ≠ x'.status)
    (decided : x'.status = .active ∨ x'.status = .rejected)
    : ∃ actor : Actor, c = .moveInstrument x.id x'.status actor
        ∧ actor.Oversees x.issuer := by
  cases h with
  | edit issuer applied => exact absurd (Instrument.applyUpdate_status applied).symm other
  | @move actor x target now listed =>
      refine ⟨actor, rfl, ?_⟩
      rcases Policy.mem_instrumentMoves_iff.1 listed with ⟨-, -, rfl⟩ | ⟨admin, -⟩
      · rcases decided with wrong | wrong <;> cases wrong
      · exact Actor.standing_eq_admin.1 admin

end AltersInstrument

/-- The write of a command that edits or moves an instrument supersedes what is stored. -/
theorem Yields.revises {s s' : Store} {id : InstrumentId} (h : c.Yields s s')
    (revises : c.Revises id)
    : ∃ x x', s.instruments.get? id = some x ∧ s'.instruments.get? id = some x'
        ∧ Table.Supersedes x' x := by
  obtain ⟨g, outcome, w, notice, performs, written⟩ := h
  have takes := Store.write_takes written
  cases revises with
  | edit =>
      cases performs with
      | @updateDraft _ _ _ x x' stored editable issuer nonempty applied =>
          cases takes with
          | instrument newer =>
              obtain rfl := Table.get?_id stored
              obtain ⟨same, touched⟩ := Instrument.applyUpdate_touch applied
              exact ⟨x, x', stored, Table.get?_put_next stored same touched,
                Table.supersedes_of_newer stored same touched newer⟩
  | move =>
      cases performs with
      | @moveInstrument _ _ _ x _ stored other permitted =>
          cases takes with
          | instrument newer =>
              obtain rfl := Table.get?_id stored
              exact ⟨x, _, stored, Table.get?_put_next stored rfl rfl,
                Table.supersedes_of_newer stored rfl rfl newer⟩

end Command

namespace Floor

/-- A schedule goes through that many turns of a kind. -/
inductive Counts (Hits : Floor → Turn → Prop) : Floor → List Turn → Nat → Prop
  | nil (f : Floor) : Counts Hits f [] 0
  | hit {f turn rest n} (hits : Hits f turn) (later : Counts Hits (f.after turn) rest n)
    : Counts Hits f (turn :: rest) (n + 1)
  | miss {f turn rest n} (misses : ¬Hits f turn) (later : Counts Hits (f.after turn) rest n)
    : Counts Hits f (turn :: rest) n

/-- A turn commits an edit or a move of an instrument. -/
def Revises (id : InstrumentId) (f : Floor) (turn : Turn) : Prop :=
  ∃ c, f.Commits turn c ∧ c.Revises id

variable {f : Floor} {id : InstrumentId} {x : Instrument}

/-- A turn raises the version of an instrument by one if it commits an edit or a move of it,
and leaves it alone otherwise.
-/
theorem Consistent.after_version (h : f.Consistent) (turn : Turn)
    (found : f.market.store.instruments.get? id = some x)
    : ∃ x', (f.after turn).market.store.instruments.get? id = some x'
        ∧ (f.Revises id turn ∧ Table.version x' = Table.version x + 1
          ∨ ¬f.Revises id turn ∧ x' = x) := by
  by_cases revises : f.Revises id turn
  · obtain ⟨c, commits, revises⟩ := revises
    obtain ⟨y, x', found', next, supersedes⟩ := commits.yields.revises revises
    cases found.symm.trans found'
    exact ⟨x', next, .inl ⟨⟨c, commits, revises⟩, supersedes.version⟩⟩
  · have evolves := h.after_instruments turn id
    rw [found] at evolves
    obtain ⟨x', next, rfl | ⟨-, c, commits, alters⟩⟩ := evolves.of_some
    · exact ⟨x', next, .inr ⟨revises, rfl⟩⟩
    · obtain rfl : x.id = id := Table.get?_id found
      exact absurd ⟨c, commits, alters.revises⟩ revises

/-- The version of an instrument grows with every edit and move that a run commits, and with
nothing else: by induction on the schedule.
-/
theorem Consistent.counts_version (h : f.Consistent)
    (found : f.market.store.instruments.get? id = some x) (schedule : List Turn)
    : ∃ n x', Counts (Revises id) f schedule n
        ∧ (f.run schedule).market.store.instruments.get? id = some x'
        ∧ Table.version x' = Table.version x + n := by
  induction schedule generalizing f x with
  | nil => exact ⟨0, x, .nil f, found, rfl⟩
  | cons turn rest ih =>
      obtain ⟨y, next, how⟩ := h.after_version turn found
      obtain ⟨n, x', counts, last, version⟩ := ih (h.after turn) next
      rcases how with ⟨hits, raised⟩ | ⟨misses, rfl⟩
      · exact ⟨n + 1, x', .hit hits counts, last, by omega⟩
      · exact ⟨n, x', .miss misses counts, last, version⟩

/-- An instrument that is not there yet gets its first version when it is drafted, and no edit
or move of it is committed before: by induction on the schedule.
-/
theorem Consistent.counts_version_of_none (h : f.Consistent)
    (absent : f.market.store.instruments.get? id = none) (schedule : List Turn)
    : ∃ n, Counts (Revises id) f schedule n
        ∧ ∀ x, (f.run schedule).market.store.instruments.get? id = some x
          → Table.version x = 1 + n := by
  induction schedule generalizing f with
  | nil =>
      refine ⟨0, .nil f, fun x found => ?_⟩
      cases absent.symm.trans found
  | cons turn rest ih =>
      -- only what is stored can be edited or moved
      have misses : ¬f.Revises id turn := by
        rintro ⟨c, commits, revises⟩
        obtain ⟨x, -, found, -⟩ := commits.yields.revises revises
        cases absent.symm.trans found
      cases next : (f.after turn).market.store.instruments.get? id with
      | none =>
          obtain ⟨n, counts, version⟩ := ih (h.after turn) next
          exact ⟨n, .miss misses counts, version⟩
      | some x =>
          have evolves := h.after_instruments turn id
          rw [absent, next] at evolves
          cases evolves with
          | created made =>
              obtain ⟨n, x', counts, last, version⟩ :=
                (h.after turn).counts_version next rest
              refine ⟨n, .miss misses counts, fun y found => ?_⟩
              cases last.symm.trans found
              rw [version, made.1]

/-- An instrument is drafted without a payment due, and then edited and moved by commands. -/
theorem evolving_instrument (id : InstrumentId)
    : Evolving (fun s => s.instruments.get? id)
        (fun x => Table.version x = 1 ∧ x.status = .draft ∧ x.maturityStatus = .notDue)
        (fun x x' => Table.Supersedes x' x ∧ ∃ c : Command, c.AltersInstrument x x') := by
  refine evolving_table (fun _ _ _ => Command.Yields.instruments) ?_ ?_ id
  · exact fun _ c x drafts => drafts.draft_notDue
  · exact fun _ c x x' alters => ⟨c, alters⟩

/-- What is fixed about an instrument stays so over every schedule, and so do its terms if it
is not a draft any more.
-/
theorem Consistent.run_instrument (h : f.Consistent)
    (found : f.market.store.instruments.get? id = some x) (later : List Turn)
    : ∃ x', (f.run later).market.store.instruments.get? id = some x'
        ∧ x'.origin = x.origin ∧ (x.status ≠ .draft → x'.terms = x.terms) := by
  have origin (y z : Instrument)
      (how : Table.Supersedes z y ∧ ∃ c : Command, c.AltersInstrument y z)
      (same : y.origin = x.origin)
      : z.origin = x.origin := by
    obtain ⟨-, c, alters⟩ := how
    exact alters.origin.trans same
  have settled (y z : Instrument)
      (how : Table.Supersedes z y ∧ ∃ c : Command, c.AltersInstrument y z)
      (before : y.status ≠ .draft ∧ y.terms = x.terms)
      : z.status ≠ .draft ∧ z.terms = x.terms := by
    obtain ⟨-, c, alters⟩ := how
    obtain ⟨submitted, same⟩ := alters.settled before.1
    exact ⟨submitted, same.trans before.2⟩
  -- an edit keeps what is fixed but not the terms, so the two are carried along apart
  have evolving := evolving_instrument id
  obtain ⟨x', last, same⟩ := evolving.run h origin found rfl later
  refine ⟨x', last, same, fun submitted => ?_⟩
  obtain ⟨y, last', -, terms⟩ := evolving.run h settled found ⟨submitted, rfl⟩ later
  cases last.symm.trans last'
  exact terms

/-- The status of an instrument is the draft at first, and every change leads on from it. -/
theorem evolving_instrumentStatus (id : InstrumentId)
    : Evolving (fun s => (s.instruments.get? id).map Instrument.status) (· = .draft)
        Instrument.Leads := by
  intro f h turn
  refine (evolving_instrument id f h turn).map Instrument.status ?_ ?_
  · exact fun x made => made.2.1
  · rintro x x' ⟨-, c, alters⟩
    exact alters.leads

/-- An instrument is approved or rejected only by a turn that commits the move of an
administrator of another company.
-/
theorem Consistent.after_decided (h : f.Consistent) (turn : Turn) {x' : Instrument}
    (found : (f.after turn).market.store.instruments.get? id = some x')
    (decided : x'.status = .active ∨ x'.status = .rejected)
    (entered : (f.market.store.instruments.get? id).map Instrument.status ≠ some x'.status)
    : ∃ actor : Actor, f.Commits turn (.moveInstrument id x'.status actor)
        ∧ actor.Oversees x'.issuer := by
  have evolves := h.after_instruments turn id
  rw [found] at evolves
  generalize before : f.market.store.instruments.get? id = old at evolves entered
  cases evolves with
  | stays => exact absurd rfl entered
  | created made =>
      obtain ⟨-, c, -, drafts⟩ := made
      rw [drafts.draft_notDue.1] at decided
      rcases decided with wrong | wrong <;> cases wrong
  | @changed x x' turned =>
      obtain ⟨-, c, commits, alters⟩ := turned
      have other : x.status ≠ x'.status := fun same => entered (congrArg some same)
      obtain ⟨actor, rfl, oversees⟩ := alters.decided other decided
      obtain rfl : x.id = id := Table.get?_id before
      have issuer : x'.issuer = x.issuer :=
        congrArg (fun origin => origin.2.1) alters.origin
      exact ⟨actor, commits, issuer ▸ oversees⟩

/-- Over every schedule from a market without records, an instrument goes through the statuses
of an approval or a refusal, is due exactly if it is active, and is decided on by an
administrator of another company only; what is fixed about it never changes, nor do its terms
once it is submitted, and its version counts the edits and moves that were committed.
-/
theorem instruments_approved (clock : Instant) (threshold : Nat) (outlet : Outlet)
    (source : IdKind → Nat → Uuid) (schedule : List Turn) (id : InstrumentId)
    : let f := start clock threshold outlet source
      let instrument? moment := (f.run moment).market.store.instruments.get? id
      let statuses :=
        f.forms (fun s => (s.instruments.get? id).map Instrument.status) schedule
      (statuses <+: [.draft, .pendingApproval, .active]
        ∨ statuses <+: [.draft, .pendingApproval, .rejected])
      ∧ (∀ x, instrument? schedule = some x → x.DueIfActive)
      ∧ (∀ turn x, instrument? (schedule ++ [turn]) = some x
        → (x.status = .active ∨ x.status = .rejected)
        → (instrument? schedule).map Instrument.status ≠ some x.status
        → ∃ actor : Actor, (f.run schedule).Commits turn (.moveInstrument id x.status actor)
            ∧ actor.role = .admin ∧ actor.company ≠ x.issuer)
      ∧ (∀ x, instrument? schedule = some x
        → ∀ later, ∃ x', instrument? (schedule ++ later) = some x' ∧ x'.origin = x.origin
            ∧ (x.status ≠ .draft → x'.terms = x.terms))
      ∧ ∃ n, Counts (Revises id) f schedule n
          ∧ ∀ x, instrument? schedule = some x → x.revision.version.toNat = 1 + n := by
  intro f instrument? statuses
  have initial : f.Consistent := consistent_start clock threshold outlet source
  have consistent := initial.run schedule
  refine ⟨?_, fun x found => ?_, fun turn x found decided entered => ?_, fun x found later => ?_,
    initial.counts_version_of_none rfl schedule⟩
  · obtain ⟨course, -⟩ := (evolving_instrumentStatus id).forms_of_none initial rfl schedule
    exact Instrument.prefix_of_leads course.first course.next
  · obtain ⟨course, last⟩ := (evolving_instrument id).forms_of_none initial rfl schedule
    refine course.reaches (P := fun _ x => x.DueIfActive) ?_ ?_ (last.trans found)
    · rintro x ⟨-, draft, notDue⟩
      rw [Instrument.DueIfActive, draft, notDue]
      rfl
    · rintro n x x' ⟨-, c, alters⟩
      exact alters.dueIfActive
  · simp only [instrument?, run_append] at found
    exact consistent.after_decided turn found decided entered
  · simp only [instrument?, run_append]
    exact consistent.run_instrument found later

end Floor

end DebtMarket
