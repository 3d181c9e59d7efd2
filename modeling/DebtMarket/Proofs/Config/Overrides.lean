import DebtMarket.Config.Load
import DebtMarket.Proofs.Record

/-! Overrides of a configuration. A field whose override spells a value of it takes that value,
a field without an override keeps the one it has, and the first override that spells no value
of its field is reported under the name of the field. The one field that is not held to this is
the format of log lines: an override that spells no format is taken for the default format.
-/

namespace DebtMarket

namespace Config

-----------------------------------------------------------------------------------------
-- What a text spells
-----------------------------------------------------------------------------------------

/-- Blanks around it aside, a text spells a size by its digits, after one plus at most. -/
def SpellsSize (text : String) (n : UInt64) : Prop :=
  ∃ sign digits, Text.trim text.toList = sign ++ digits
    ∧ (sign = [] ∨ sign = ['+'])
    ∧ digits ≠ [] ∧ (∀ c ∈ digits, c.isDigit = true)
    ∧ Text.digitsValue digits = n.toNat

/-- Blanks around it and the case of letters aside, a text spells a flag by one of its words.
-/
def SpellsFlag (text : String) (flag : Bool) : Prop :=
  Text.lowered (Text.trimString text)
    ∈ if flag then ["true", "1", "yes", "on"] else ["false", "0", "no", "off"]

/-- The case of letters aside, a text spells a format by its word. -/
def SpellsFormat (text : String) (format : LogFormat) : Prop :=
  Text.lowered text = word format

-----------------------------------------------------------------------------------------
-- Sizes
-----------------------------------------------------------------------------------------

/-- A number does not get less by more digits, by induction on them. -/
theorem le_foldl_digits (n : Nat) (cs : List Char)
    : n ≤ cs.foldl (fun n c => 10 * n + Text.digitValue c) n := by
  induction cs generalizing n with
  | nil => exact Nat.le_refl n
  | cons c rest ih =>
      refine Nat.le_trans ?_ (ih (10 * n + Text.digitValue c))
      omega

/-- Digits are read if they fit, by induction on them: what is too large before the last digit
is too large with it.
-/
theorem readDigits_eq_ok {n m : Nat} {cs : List Char} (fits : n < Nat.pow 2 64)
    : readDigits n cs = .ok m
      ↔ (∀ c ∈ cs, c.isDigit = true)
        ∧ cs.foldl (fun n c => 10 * n + Text.digitValue c) n = m ∧ m < Nat.pow 2 64 := by
  induction cs generalizing n with
  | nil =>
      simp only [readDigits, Except.ok.injEq, List.foldl_nil]
      constructor
      · rintro rfl
        exact ⟨by simp, rfl, fits⟩
      · rintro ⟨-, same, -⟩
        exact same
  | cons c rest ih =>
      simp only [readDigits, List.forall_mem_cons, List.foldl_cons]
      by_cases digit : c.isDigit = true
      · rw [if_neg (by simp [digit])]
        by_cases large : Nat.pow 2 64 ≤ 10 * n + Text.digitValue c
        · have last := le_foldl_digits (10 * n + Text.digitValue c) rest
          rw [if_pos large]
          constructor
          · intro read
            cases read
          · rintro ⟨-, rfl, fits⟩
            exact absurd (Nat.le_trans large last) (Nat.not_le_of_lt fits)
        · rw [if_neg large, ih (Nat.lt_of_not_le large)]
          simp [digit]
      · rw [if_pos (by simp [digit])]
        simp [digit]

/-- Some digits are read as the size that they stand for. -/
theorem readDigits_map_eq_ok {n : UInt64} {cs : List Char}
    : (readDigits 0 cs).map UInt64.ofNat = .ok n
      ↔ (∀ c ∈ cs, c.isDigit = true) ∧ Text.digitsValue cs = n.toNat := by
  have bounds : n.toNat < Nat.pow 2 64 := n.toNat_lt
  have reads (m : Nat)
      : readDigits 0 cs = .ok m
        ↔ (∀ c ∈ cs, c.isDigit = true) ∧ Text.digitsValue cs = m ∧ m < Nat.pow 2 64 :=
    readDigits_eq_ok (by decide)
  constructor
  · intro read
    cases answer : readDigits 0 cs with
    | error e =>
        rw [answer] at read
        cases read
    | ok m =>
        rw [answer] at read
        cases read
        obtain ⟨digits, value, fits⟩ := (reads m).1 answer
        exact ⟨digits, value.trans (UInt64.toNat_ofNat_of_lt' fits).symm⟩
  · rintro ⟨digits, value⟩
    rw [(reads n.toNat).2 ⟨digits, value, bounds⟩, Except.map, UInt64.ofNat_toNat]

theorem readNumber_signed {c : Char} {rest : List Char}
    : readNumber ('+' :: c :: rest) = (readDigits 0 (c :: rest)).map UInt64.ofNat :=
  rfl

theorem readNumber_unsigned {c : Char} {rest : List Char} (unsigned : c ≠ '+')
    : readNumber (c :: rest) = (readDigits 0 (c :: rest)).map UInt64.ofNat := by
  simp [readNumber, unsigned]

/-- A text is read as a number exactly if it is digits after one plus at most. -/
theorem readNumber_eq_ok {n : UInt64} {cs : List Char}
    : readNumber cs = .ok n
      ↔ ∃ sign digits, cs = sign ++ digits ∧ (sign = [] ∨ sign = ['+'])
        ∧ digits ≠ [] ∧ (∀ c ∈ digits, c.isDigit = true)
        ∧ Text.digitsValue digits = n.toNat := by
  constructor
  · intro read
    cases cs with
    | nil => cases read
    | cons c rest =>
        by_cases signed : c = '+'
        · subst signed
          cases rest with
          | nil => cases read
          | cons d rest =>
              rw [readNumber_signed, readDigits_map_eq_ok] at read
              exact ⟨['+'], d :: rest, rfl, .inr rfl, List.cons_ne_nil _ _, read⟩
        · rw [readNumber_unsigned signed, readDigits_map_eq_ok] at read
          exact ⟨[], c :: rest, rfl, .inl rfl, List.cons_ne_nil _ _, read⟩
  · rintro ⟨sign, digits, rfl, kind, some, all, value⟩
    obtain ⟨c, rest, rfl⟩ := List.exists_cons_of_ne_nil some
    rcases kind with rfl | rfl
    · have unsigned : c ≠ '+' := by
        rintro rfl
        exact absurd (all '+' List.mem_cons_self) (by decide)
      exact (readNumber_unsigned unsigned).trans (readDigits_map_eq_ok.2 ⟨all, value⟩)
    · exact readNumber_signed.trans (readDigits_map_eq_ok.2 ⟨all, value⟩)

-----------------------------------------------------------------------------------------
-- Single overrides
-----------------------------------------------------------------------------------------

/-- An override of a size is taken exactly if it spells one. -/
theorem overrideSize_eq_ok {field text : String} {n : UInt64}
    : overrideSize field text = .ok n ↔ SpellsSize text n := by
  rw [SpellsSize, ← readNumber_eq_ok, overrideSize]
  cases readNumber (Text.trim text.toList) with
  | ok m => simp [Except.mapError]
  | error fault => simp [Except.mapError]

/-- An override of a flag is taken exactly if it spells one. -/
theorem overrideFlag_eq_ok {field text : String} {flag : Bool}
    : overrideFlag field text = .ok flag ↔ SpellsFlag text flag := by
  unfold overrideFlag SpellsFlag
  generalize Text.lowered (Text.trimString text) = spelled
  have apart : spelled ∈ ["true", "1", "yes", "on"] → spelled ∉ ["false", "0", "no", "off"] := by
    simp only [List.mem_cons, List.not_mem_nil, or_false]
    rintro (rfl | rfl | rfl | rfl) <;> decide
  simp only [List.contains_iff_mem]
  by_cases on : spelled ∈ ["true", "1", "yes", "on"]
  · cases flag <;> simp [on, apart on]
  · by_cases off : spelled ∈ ["false", "0", "no", "off"] <;> cases flag <;> simp [on, off]

theorem overrideSize_eq_error {field text : String} {e : ConfigError}
    (refused : overrideSize field text = .error e)
    : ∃ reason, e = .invalid field reason := by
  unfold overrideSize at refused
  cases read : readNumber (Text.trim text.toList) with
  | ok m =>
      rw [read] at refused
      cases refused
  | error fault =>
      rw [read] at refused
      cases refused
      exact ⟨_, rfl⟩

theorem overrideFlag_eq_error {field text : String} {e : ConfigError}
    (refused : overrideFlag field text = .error e)
    : ∃ reason, e = .invalid field reason := by
  unfold overrideFlag at refused
  dsimp only at refused
  split at refused
  · cases refused
  · split at refused
    · cases refused
    · cases refused
      exact ⟨_, rfl⟩

-----------------------------------------------------------------------------------------
-- All overrides
-----------------------------------------------------------------------------------------

/-- A field is overridden by what the given text spells, and stays if none is given. -/
def Overridden {α : Type} (Spells : String → α → Prop) (given : Option String) (old new : α)
    : Prop :=
  match given with
  | none => new = old
  | some text => Spells text new

/-- A text is given that spells no value of its field. -/
def Offends {α : Type} (Spells : String → α → Prop) (given : Option String) : Prop :=
  ∃ text, given = some text ∧ ∀ a, ¬ Spells text a

/-- Every field of a configuration is overridden on its own, the format of log lines by the
texts that count as a format.
-/
structure Overrides (Format : String → LogFormat → Prop) (lookup : String → Option String)
    (c c' : Config)
    : Prop where
  level : Overridden Eq (lookup "LOG_LEVEL") c.log.level c'.log.level
  format : Overridden Format (lookup "LOG_FORMAT") c.log.format c'.log.format
  capacity : Overridden SpellsSize (lookup "EVENT_CHANNEL_CAPACITY") c.events.channelCapacity
    c'.events.channelCapacity
  enabled : Overridden SpellsFlag (lookup "EVENTS_ENABLED") c.events.enabled c'.events.enabled
  threshold : Overridden SpellsSize (lookup "LOCK_PRUNE_THRESHOLD") c.locks.pruneThreshold
    c'.locks.pruneThreshold
  serviceName : Overridden Eq (lookup "SERVICE_NAME") c.serviceName c'.serviceName
  environment : Overridden Eq (lookup "ENVIRONMENT") c.environment c'.environment

/-- The fields whose overrides may offend, in the order in which they are reported. -/
def offences (Format : String → LogFormat → Prop) (lookup : String → Option String)
    : List (String × Prop) :=
  [
    ("log.format", Offends Format (lookup "LOG_FORMAT")),
    ("events.channel_capacity", Offends SpellsSize (lookup "EVENT_CHANNEL_CAPACITY")),
    ("events.enabled", Offends SpellsFlag (lookup "EVENTS_ENABLED")),
    ("locks.prune_threshold", Offends SpellsSize (lookup "LOCK_PRUNE_THRESHOLD"))
  ]

/-- A field offends and none before it does. -/
def FirstOffence : List (String × Prop) → String → Prop
  | [], _ => False
  | (name, offends) :: rest, field =>
      (offends ∧ field = name) ∨ (¬ offends ∧ FirstOffence rest field)

/-- Overrides are exact under a reading of formats: they are applied exactly if none of them
offends, then every field is overridden on its own, and otherwise the first offence is named.
-/
structure Exact (Format : String → LogFormat → Prop) (lookup : String → Option String)
    (c : Config)
    : Prop where
  succeeds
    : (∃ c', c.override lookup = .ok c') ↔ ∀ offence ∈ offences Format lookup, ¬ offence.2
  applied : ∀ c', c.override lookup = .ok c' ↔ Overrides Format lookup c c'
  refused
    : ∀ e, c.override lookup = .error e
      → ∃ field reason, e = .invalid field reason ∧ FirstOffence (offences Format lookup) field

/-- What an override of the format is taken for: any text but the word of one format is taken
for the other one.
-/
def TakenForFormat (text : String) (format : LogFormat) : Prop :=
  format = if Text.lowered text = word LogFormat.pretty then .pretty else .json

section Fields

variable {α : Type} {Spells : String → α → Prop} {given : Option String}
variable {read : String → Except ConfigError α} {old new : α}

/-- A field that is not offended has a value. -/
theorem exists_overridden (old : α)
    : (∃ new, Overridden Spells given old new) ↔ ¬ Offends Spells given := by
  cases given with
  | none => simp [Overridden, Offends]
  | some text => simp [Overridden, Offends]

/-- An override is read exactly if it does not offend. -/
theorem mapM_overridden (reads : ∀ text a, read text = .ok a ↔ Spells text a)
    : (∃ taken, given.mapM read = .ok taken ∧ taken.getD old = new)
      ↔ Overridden Spells given old new := by
  cases given with
  | none => simp [Overridden, pure, Except.pure, eq_comm]
  | some text =>
      rw [Overridden, ← reads]
      cases answer : read text with
      | ok a => simp [Option.mapM_some, answer, Functor.map, Except.map]
      | error e => simp [Option.mapM_some, answer, Functor.map, Except.map]

/-- An override that is refused offends. -/
theorem mapM_offends (reads : ∀ text a, read text = .ok a ↔ Spells text a) {e : ConfigError}
    (refused : given.mapM read = .error e)
    : Offends Spells given ∧ ∃ text, read text = .error e := by
  cases given with
  | none => cases refused
  | some text =>
      cases answer : read text with
      | ok a => simp [Option.mapM_some, answer, Functor.map, Except.map] at refused
      | error fault =>
          have same : fault = e := by
            simpa [Option.mapM_some, answer, Functor.map, Except.map] using refused
          refine ⟨⟨text, rfl, fun a spelled => ?_⟩, text, same ▸ answer⟩
          rw [← reads, answer] at spelled
          cases spelled

/-- A text that is no more than copied never offends. -/
theorem getD_overridden {old new : String}
    : given.getD old = new ↔ Overridden Eq given old new := by
  cases given with
  | none => simp [Overridden, eq_comm]
  | some text => simp [Overridden]

theorem format_overridden {old new : LogFormat}
    : (given.map overrideFormat).getD old = new ↔ Overridden TakenForFormat given old new := by
  cases given with
  | none => simp [Overridden, eq_comm]
  | some text =>
      rw [Option.map_some, Option.getD_some, Overridden, TakenForFormat, overrideFormat,
        eq_comm]
      simp only [beq_iff_eq]

/-- Where no text offends, formats are taken for what they spell. -/
theorem overridden_format {old new : LogFormat} (spelled : ¬ Offends SpellsFormat given)
    : Overridden SpellsFormat given old new ↔ Overridden TakenForFormat given old new := by
  cases given with
  | none => exact Iff.rfl
  | some text =>
      have known : ∃ format, SpellsFormat text format := by
        simpa [Offends] using spelled
      obtain ⟨format, known⟩ := known
      unfold Overridden TakenForFormat SpellsFormat at *
      cases format <;> cases new <;> simp [known] <;> decide

end Fields

variable {c c' : Config} {lookup : String → Option String}

/-- A configuration is overridden exactly if every field is, the format by whatever it is taken
for.
-/
theorem override_eq_ok
    : c.override lookup = .ok c' ↔ Overrides TakenForFormat lookup c c' := by
  obtain ⟨⟨level, format⟩, ⟨capacity, enabled⟩, ⟨threshold⟩, name, environment⟩ := c'
  simp only [override, except_bind_eq_ok, pure, Except.pure, Except.ok.injEq, Config.mk.injEq,
    LogConfig.mk.injEq, EventConfig.mk.injEq, LockConfig.mk.injEq, getD_overridden,
    format_overridden]
  constructor
  · rintro ⟨sized, capacity, flagged, enabled, bounded, threshold, ⟨hl, hf⟩, ⟨hc, he⟩, ht, hn, hv⟩
    exact {
      level := hl
      format := hf
      capacity := (mapM_overridden fun _ _ => overrideSize_eq_ok).1 ⟨sized, capacity, hc⟩
      enabled := (mapM_overridden fun _ _ => overrideFlag_eq_ok).1 ⟨flagged, enabled, he⟩
      threshold := (mapM_overridden fun _ _ => overrideSize_eq_ok).1 ⟨bounded, threshold, ht⟩
      serviceName := hn
      environment := hv
    }
  · intro h
    obtain ⟨sized, capacity, hc⟩ := (mapM_overridden fun _ _ => overrideSize_eq_ok).2 h.capacity
    obtain ⟨flagged, enabled, he⟩ := (mapM_overridden fun _ _ => overrideFlag_eq_ok).2 h.enabled
    obtain ⟨bounded, threshold, ht⟩ :=
      (mapM_overridden fun _ _ => overrideSize_eq_ok).2 h.threshold
    exact ⟨sized, capacity, flagged, enabled, bounded, threshold, ⟨h.level, h.format⟩, ⟨hc, he⟩,
      ht, h.serviceName, h.environment⟩

/-- Some override of every field exists exactly if none offends. -/
theorem exists_overrides (Format : String → LogFormat → Prop) (lookup : String → Option String)
    (c : Config)
    : (∃ c', Overrides Format lookup c c')
      ↔ ∀ offence ∈ offences Format lookup, ¬ offence.2 := by
  simp only [offences, List.forall_mem_cons, List.not_mem_nil, false_implies, implies_true,
    and_true]
  rw [← exists_overridden c.log.format, ← exists_overridden c.events.channelCapacity,
    ← exists_overridden c.events.enabled, ← exists_overridden c.locks.pruneThreshold]
  constructor
  · rintro ⟨c', h⟩
    exact ⟨⟨_, h.format⟩, ⟨_, h.capacity⟩, ⟨_, h.enabled⟩, ⟨_, h.threshold⟩⟩
  · rintro ⟨⟨format, hf⟩, ⟨capacity, hc⟩, ⟨enabled, he⟩, ⟨threshold, ht⟩⟩
    exact ⟨⟨⟨_, format⟩, ⟨capacity, enabled⟩, ⟨threshold⟩, _, _⟩, {
      level := getD_overridden.1 rfl
      format := hf
      capacity := hc
      enabled := he
      threshold := ht
      serviceName := getD_overridden.1 rfl
      environment := getD_overridden.1 rfl
    }⟩

/-- No text offends a format by what it is taken for. -/
theorem not_offends_taken {given : Option String} : ¬ Offends TakenForFormat given := by
  rintro ⟨text, -, none⟩
  exact none _ rfl

/-- A refusal has a first part that is refused, the parts before it having results. -/
theorem except_bind_eq_error {ε α β : Type} {x : Except ε α} {f : α → Except ε β} {e : ε}
    : (x >>= f) = .error e ↔ x = .error e ∨ ∃ a, x = .ok a ∧ f a = .error e := by
  cases x with
  | error e => simp [bind, Except.bind]
  | ok a => simp [bind, Except.bind]

/-- What is taken does not offend. -/
theorem not_offends_of_mapM {α : Type} {Spells : String → α → Prop} {given : Option String}
    {read : String → Except ConfigError α} (reads : ∀ text a, read text = .ok a ↔ Spells text a)
    {taken : Option α} (answer : given.mapM read = .ok taken)
    : ¬ Offends Spells given := by
  rintro ⟨text, rfl, none⟩
  cases read' : read text with
  | ok a => exact none a ((reads text a).1 read')
  | error e => simp [Option.mapM_some, read', Functor.map, Except.map] at answer

/-- The error of an override names the first field that offends. -/
theorem override_eq_error {e : ConfigError} (refused : c.override lookup = .error e)
    : ∃ field reason, e = .invalid field reason
        ∧ FirstOffence (offences TakenForFormat lookup) field := by
  simp only [override, except_bind_eq_error] at refused
  have formatted : ¬ Offends TakenForFormat (lookup "LOG_FORMAT") := not_offends_taken
  obtain capacity
      | ⟨sized, capacity, enabled | ⟨flagged, enabled, threshold | ⟨bounded, -, done⟩⟩⟩ :=
    refused
  · obtain ⟨offends, text, read⟩ := mapM_offends (fun _ _ => overrideSize_eq_ok) capacity
    obtain ⟨reason, rfl⟩ := overrideSize_eq_error read
    exact ⟨_, reason, rfl, .inr ⟨formatted, .inl ⟨offends, rfl⟩⟩⟩
  · obtain ⟨offends, text, read⟩ := mapM_offends (fun _ _ => overrideFlag_eq_ok) enabled
    obtain ⟨reason, rfl⟩ := overrideFlag_eq_error read
    have fits := not_offends_of_mapM (fun _ _ => overrideSize_eq_ok) capacity
    exact ⟨_, reason, rfl, .inr ⟨formatted, .inr ⟨fits, .inl ⟨offends, rfl⟩⟩⟩⟩
  · obtain ⟨offends, text, read⟩ := mapM_offends (fun _ _ => overrideSize_eq_ok) threshold
    obtain ⟨reason, rfl⟩ := overrideSize_eq_error read
    have fits := not_offends_of_mapM (fun _ _ => overrideSize_eq_ok) capacity
    have known := not_offends_of_mapM (fun _ _ => overrideFlag_eq_ok) enabled
    exact ⟨_, reason, rfl, .inr ⟨formatted, .inr ⟨fits, .inr ⟨known, .inl ⟨offends, rfl⟩⟩⟩⟩⟩
  · cases done

/-- Overrides are exact if the format is allowed to be whatever it is taken for. -/
theorem exact_taken (c : Config) (lookup : String → Option String)
    : Exact TakenForFormat lookup c where
  succeeds := by simp only [override_eq_ok, exists_overrides]
  applied := fun _ => override_eq_ok
  refused := fun _ => override_eq_error

/-- Where a text is given for the format that spells none, the reports differ: the format comes
first among the offences, but it is never reported.
-/
theorem not_exact_of_offends (offends : Offends SpellsFormat (lookup "LOG_FORMAT"))
    : ¬ Exact SpellsFormat lookup c := by
  intro exact
  cases answer : c.override lookup with
  | ok c' =>
      have format := ((exact.applied c').1 answer).format
      obtain ⟨text, given, none⟩ := offends
      rw [given] at format
      exact none _ format
  | error e =>
      obtain ⟨field, reason, rfl, first⟩ := exact.refused e answer
      obtain ⟨other, because, same, actual⟩ := (exact_taken c lookup).refused _ answer
      cases same
      rcases first with ⟨-, rfl⟩ | ⟨spelled, -⟩
      · rcases actual with ⟨taken, -⟩ | ⟨-, later⟩
        · exact not_offends_taken taken
        · simp [FirstOffence] at later
      · exact spelled offends

/-- Where the format is spelled, or no text is given for it, overrides are exact. -/
theorem exact_of_spelled (spelled : ¬ Offends SpellsFormat (lookup "LOG_FORMAT"))
    : Exact SpellsFormat lookup c := by
  have taken := exact_taken c lookup
  have applied (c' : Config)
      : c.override lookup = .ok c' ↔ Overrides SpellsFormat lookup c c' := by
    rw [taken.applied]
    constructor
    · intro h
      exact { h with format := (overridden_format spelled).2 h.format }
    · intro h
      exact { h with format := (overridden_format spelled).1 h.format }
  refine ⟨?_, applied, fun e refused => ?_⟩
  · simp only [applied, exists_overrides]
  · obtain ⟨field, reason, named, first⟩ := taken.refused e refused
    refine ⟨field, reason, named, ?_⟩
    rcases first with ⟨offends, -⟩ | ⟨-, later⟩
    · exact absurd offends not_offends_taken
    · exact .inr ⟨spelled, later⟩

/-- Overrides are exact up to the format, which is taken for `pretty` if the text spells it and
for `json` otherwise. So they are exact in every respect just if no text is given for the format
that spells none.
-/
theorem override_exact (c : Config) (lookup : String → Option String)
    : Exact TakenForFormat lookup c
      ∧ (Exact SpellsFormat lookup c ↔ ¬ Offends SpellsFormat (lookup "LOG_FORMAT")) := by
  refine ⟨exact_taken c lookup, fun exact offends => ?_, exact_of_spelled⟩
  exact not_exact_of_offends offends exact

/-- A format that nobody knows is taken for `json`, and not refused. -/
theorem format_misread
    : let lookup key := if key = "LOG_FORMAT" then some "xml" else none
      (∀ format, ¬ SpellsFormat "xml" format)
      ∧ (default : Config).override lookup = .ok default
      ∧ ¬ Exact SpellsFormat lookup default := by
  intro lookup
  have unknown (format : LogFormat) : ¬ SpellsFormat "xml" format := by
    unfold SpellsFormat
    cases format <;> decide
  refine ⟨unknown, rfl, ?_⟩
  exact not_exact_of_offends ⟨"xml", rfl, unknown⟩

end Config

end DebtMarket
