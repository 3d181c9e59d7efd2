import DebtMarket.Config.Wire
import DebtMarket.Toml.Reader

/-! Loading a configuration: from its file if there is one, from the defaults otherwise,
and then from overrides of single fields. The first override that is no value of its field
is reported.
-/

namespace DebtMarket

/-- What stands where the file of a configuration is looked for. -/
inductive ConfigFile where
  | absent
  | directory
  | contents (bytes : ByteArray)

/-- Why a text is no unsigned 64-bit number. -/
inductive NumberFault where
  | empty
  | badDigit
  | tooLarge
deriving DecidableEq, Repr

namespace NumberFault

/-- The message of a fault. -/
def message : NumberFault → String
  | empty => "cannot parse integer from empty string"
  | badDigit => "invalid digit found in string"
  | tooLarge => "number too large to fit in target type"

end NumberFault

namespace Config

/-- The number after more digits, read from left to right. -/
def readDigits : (n : Nat) → List Char → Except NumberFault Nat
  | n, [] => .ok n
  | n, c :: rest =>
      if !c.isDigit then .error .badDigit
      else
        let grown := 10 * n + Text.digitValue c
        if Nat.pow 2 64 ≤ grown then .error .tooLarge else readDigits grown rest

/-- The number that a text stands for: digits, after a plus if there is one. -/
def readNumber : List Char → Except NumberFault UInt64
  | [] => .error .empty
  | ['+'] => .error .badDigit
  | '+' :: rest => (readDigits 0 rest).map UInt64.ofNat
  | cs => (readDigits 0 cs).map UInt64.ofNat

/-- A size from the text of an override, blanks around it aside. -/
def overrideSize (field text : String) : Except ConfigError UInt64 :=
  (readNumber (Text.trim text.toList)).mapError fun fault =>
    .invalid field s!"'{text}': {fault.message}"

/-- A flag from the text of an override, blanks around it and the case of letters aside.
-/
def overrideFlag (field text : String) : Except ConfigError Bool :=
  let word := Text.lowered (Text.trimString text)
  if ["true", "1", "yes", "on"].contains word then .ok true
  else if ["false", "0", "no", "off"].contains word then .ok false
  else .error (.invalid field s!"'{text}' is not a boolean")

/-- A format of log lines from the text of an override: any text but one word means the
default.
-/
def overrideFormat (text : String) : LogFormat :=
  if Text.lowered text == word LogFormat.pretty then .pretty else .json

/-- The configuration with its fields overridden, where they are. -/
def override (c : Config) (lookup : String → Option String)
    : Except ConfigError Config := do
  let level := (lookup "LOG_LEVEL").getD c.log.level
  let format := ((lookup "LOG_FORMAT").map overrideFormat).getD c.log.format
  let capacity ←
    (lookup "EVENT_CHANNEL_CAPACITY").mapM (overrideSize "events.channel_capacity")
  let enabled ← (lookup "EVENTS_ENABLED").mapM (overrideFlag "events.enabled")
  let threshold ←
    (lookup "LOCK_PRUNE_THRESHOLD").mapM (overrideSize "locks.prune_threshold")
  return {
    log := { level, format },
    events := {
      channelCapacity := capacity.getD c.events.channelCapacity,
      enabled := enabled.getD c.events.enabled
    },
    locks := { pruneThreshold := threshold.getD c.locks.pruneThreshold },
    serviceName := (lookup "SERVICE_NAME").getD c.serviceName,
    environment := (lookup "ENVIRONMENT").getD c.environment
  }

/-- The configuration of a file. -/
def ofFile : ConfigFile → Except ConfigError Config
  | .absent => .ok default
  | .directory => .error .unreadable
  | .contents bytes =>
      match String.fromUTF8? bytes with
      | none => .error .unreadable
      | some text =>
          match (Toml.read text).bind ofToml? with
          | none => .error .malformed
          | some c => .ok c

/-- The configuration of a file with its fields overridden. -/
def load (file : ConfigFile) (lookup : String → Option String)
    : Except ConfigError Config := do
  (← ofFile file).override lookup

end Config

end DebtMarket
