import DebtMarket.Proofs.Lock.Accounts
import DebtMarket.Proofs.Market.Writing
import DebtMarket.Proofs.Operation.Atomicity

/-! Runs that come to an end. An operation that runs to its end without waiting has on the
market the effect that it has alone, whatever the locks were: it is given the time on the
clock and the next identifiers, leaves the store of its effect, and publishes what it made
known in order.
-/

namespace DebtMarket

namespace Publisher

/-- The publisher after changes were made known, each under the next identifier. -/
def tell (p : Publisher) (source : Nat → Uuid)
    : (drawn : Nat) → List (Happening × Instant) → Publisher
  | _, [] => p
  | drawn, (happening, time) :: rest =>
      (p.publish ⟨⟨source drawn⟩, time, happening⟩).tell source (drawn + 1) rest

end Publisher

namespace Market

variable {α β : Type}

/-- What the market gives to an operation that begins now. -/
def given (m : Market) : Given :=
  ⟨m.clock, fun kind => m.source kind (m.drawn kind)⟩

/-- The market has undergone an effect that ended with a result. -/
structure Undergoes (m : Market) (e : Effect α) (result : Except Failure α) (m' : Market)
    : Prop where
  result : e.result = result
  store : e.store = m'.store
  publisher
    : m'.publisher = m.publisher.tell (m.source .event) (m.drawn .event) e.notices
  clock : m'.clock = m.clock
  source : m'.source = m.source

/-- An operation and what goes on from its result run one after the other, by induction on
the operation; if the first waits, the rest waits with it.
-/
theorem run_bind (p : Operation α) (f : α → Operation β) (held : List Guard) (m : Market)
    : run (p.bind f) held m
      = match run p held m with
        | (.finished (.ok a) held, m) => run (f a) held m
        | (.finished (.error failure) held, m) => (.finished (.error failure) held, m)
        | (.waiting task, m) => (.waiting { task with rest := task.rest.bind f }, m) := by
  induction p generalizing held m with
  | done a => rfl
  | fail failure => rfl
  | call c next ih => exact ih _ held _
  | lock scope next ih =>
      simp only [Operation.bind, run]
      split
      · exact ih _ _
      · rfl
  | unlock next ih =>
      cases held with
      | nil => exact ih [] m
      | cons guard held => exact ih held (m.leave guard)

/-- What closes only makes known what was done before, by induction on it. -/
theorem run_closing {well : Bool} {taken : List Scope} {p : Operation α}
    (h : Operation.Closing well taken p) {held held' : List Guard} {m m' : Market}
    {result : Except Failure α} (ended : run p held m = (.finished result held', m'))
    (g : Given)
    : m.Undergoes (p.effect g m.store) result m' := by
  induction h generalizing held m with
  | done a =>
      cases ended
      exact ⟨rfl, rfl, rfl, rfl, rfl⟩
  | fail failure =>
      cases ended
      exact ⟨rfl, rfl, rfl, rfl, rfl⟩
  | @publish taken happening time next rest ih =>
      have undergone := ih ended
      refine ⟨undergone.result, undergone.store, ?_, undergone.clock, undergone.source⟩
      exact undergone.publisher
  | unlock rest ih =>
      cases held with
      | nil => exact ih ended
      | cons guard held =>
          have undergone := ih ended
          exact ⟨undergone.result, undergone.store, undergone.publisher, undergone.clock,
            undergone.source⟩

/-- An orderly operation that ends has had its effect, for whatever is given that agrees
with what it still gets from the market: by induction on the operation.
-/
theorem run_orderly {kept taken : List Scope} {d : Drawn} {p : Operation α}
    (h : Operation.Orderly kept taken d p) {held held' : List Guard} {m m' : Market}
    {result : Except Failure α} (ended : run p held m = (.finished result held', m'))
    {g : Given} (instant : d.instant = none → g.instant = m.clock)
    (uuid : ∀ kind, kind ≠ .event → d.uuid kind = none
      → g.uuid kind = m.source kind (m.drawn kind))
    : m.Undergoes (p.effect g m.store) result m' := by
  induction h generalizing held m with
  | close closing => exact run_closing closing ended g
  | @now taken d next unread rest ih =>
      simp only [Operation.effect, instant unread]
      exact ih m.clock ended (fun read => by cases read) uuid
  | @draw taken d kind next named undrawn rest ih =>
      have drawn : g.id kind = (m.draw kind).1 := congrArg Id.mk (uuid kind named undrawn)
      simp only [Operation.effect, drawn]
      have undergone := ih _ ended instant (fun other notEvent none => ?_)
      · refine ⟨undergone.result, undergone.store, ?_, undergone.clock,
          undergone.source⟩
        rw [undergone.publisher]
        simp only [draw, named.symm, if_false]
      · by_cases same : other = kind
        · simp [Drawn.drawing, same] at none
        · simp only [Drawn.drawing, same, if_false] at none
          simpa [draw, answer, same] using uuid other notEvent none
  | query rest ih => exact ih _ ended instant uuid
  | @write taken d w next refused accepted =>
      simp only [Operation.effect]
      simp only [run, answer, write_eq] at ended
      cases written : m.store.write w with
      | error e =>
          rw [written] at ended
          exact run_closing (refused e) ended g
      | ok s =>
          rw [written] at ended
          have undergone := run_closing accepted ended g
          exact ⟨undergone.result, undergone.store, undergone.publisher, undergone.clock,
            undergone.source⟩
  | @lock taken d scope next fits rest ih =>
      simp only [run] at ended
      split at ended
      · have undergone := ih ended instant uuid
        exact ⟨undergone.result, undergone.store, undergone.publisher, undergone.clock,
          undergone.source⟩
      · cases ended

-----------------------------------------------------------------------------------------
-- A task that is alone on the market never waits
-----------------------------------------------------------------------------------------

/-- The claims of a task that holds some locks and waits for none. -/
def claimsOf (held : List Guard) : List Claim :=
  held.map fun guard => ⟨guard, true⟩

/-- What closes gives up all that it holds, by induction on it. -/
theorem run_closing_ends {well : Bool} {taken : List Scope} {p : Operation α}
    (h : Operation.Closing well taken p) {held : List Guard} {m : Market}
    (holding : held.map Guard.scope = taken) (accounts : m.locks.Accounts (claimsOf held))
    : ∃ result m', run p held m = (.finished result [], m') ∧ m'.locks.Accounts [] := by
  induction h generalizing held m with
  | done a =>
      cases List.map_eq_nil_iff.1 holding
      exact ⟨.ok a, m, rfl, accounts⟩
  | fail failure =>
      cases List.map_eq_nil_iff.1 holding
      exact ⟨.error failure, m, rfl, accounts⟩
  | @publish taken happening time next rest ih => exact ih holding accounts
  | @unlock well scope taken next rest ih =>
      obtain ⟨guard, held', rfl, -, holding⟩ := List.map_eq_cons_iff.1 holding
      exact ih (m := m.leave guard) holding accounts.leave

/-- An orderly operation ends if nobody else claims a lock, by induction on it: it never
claims a scope twice, so that each of its claims is alone.
-/
theorem run_ends {taken : List Scope} {d : Drawn} {p : Operation α}
    (h : Operation.Orderly [] taken d p) {held : List Guard} {m : Market}
    (holding : held.map Guard.scope = taken) (accounts : m.locks.Accounts (claimsOf held))
    : ∃ result m', run p held m = (.finished result [], m') ∧ m'.locks.Accounts [] := by
  induction h generalizing held m with
  | close closing => exact run_closing_ends closing holding accounts
  | now unread rest ih => exact ih _ holding accounts
  | draw named undrawn rest ih => exact ih _ holding accounts
  | query rest ih => exact ih _ holding accounts
  | @write taken d w next refused accepted =>
      cases written : m.store.write w with
      | error e =>
          simp only [run, answer, write_eq, written]
          exact run_closing_ends (refused e) holding accounts
      | ok s =>
          simp only [run, answer, write_eq, written]
          exact run_closing_ends accepted holding accounts
  | @lock taken d scope next fits rest ih =>
      have claimed : (m.claim scope).2.locks.Accounts
          (claimsOf ((m.claim scope).1 :: held)) := (accounts.enter scope).join
      have ofScope : (m.claim scope).1.scope = scope := Locks.enter_scope m.locks scope
      have free : ∀ c ∈ claimsOf held, c.guard.scope ≠ (m.claim scope).1.scope := by
        intro c member same
        obtain ⟨guard, holds, rfl⟩ := List.mem_map.1 member
        refine fits.not_mem (List.mem_append_left _ ?_)
        rw [← holding]
        exact List.mem_map.2 ⟨guard, holds, same.trans ofScope⟩
      have holds := Locks.Accounts.holds_alone claimed free
      simp only [run]
      rw [if_pos holds]
      exact ih (by rw [List.map_cons, ofScope, holding]) claimed

namespace Sample

/-- The first second of the year 2024. -/
def newYear : Instant :=
  ⟨⟨2024, 1, 1, by decide, by decide, by decide⟩, 0, 0, by decide, by decide, by decide⟩

/-- The first day of the year 2025. -/
def nextYear : Date :=
  ⟨2025, 1, 1, by decide, by decide, by decide⟩

/-- The smallest whole amount of money. -/
def one : Amount :=
  ⟨⟨false, 1, 0, by decide, by decide⟩, by decide⟩

/-- The currency of the amount. -/
def euro : Currency :=
  ⟨"EUR", by decide⟩

end Sample

end Market

end DebtMarket
