import DebtMarket.Lock
import DebtMarket.Vocabulary

/-! The configuration of the market: logging, events, locks and names. Each field has a
default. A configuration may hold values that make no sense; `validate` tells whether it
does.
-/

namespace DebtMarket

/-- The form of log lines. -/
inductive LogFormat where
  | json
  | pretty
deriving DecidableEq, Repr

namespace LogFormat

instance : Vocabulary LogFormat where
  noun := "log format"
  members := [.json, .pretty]
  word
    | .json => "json"
    | .pretty => "pretty"

instance : Inhabited LogFormat :=
  ⟨.json⟩

end LogFormat

/-- How to log. -/
structure LogConfig where
  level : String
  format : LogFormat
deriving DecidableEq, Repr

instance : Inhabited LogConfig :=
  ⟨{ level := "info", format := default }⟩

/-- How to publish events. -/
structure EventConfig where
  channelCapacity : UInt64
  enabled : Bool
deriving DecidableEq, Repr

instance : Inhabited EventConfig :=
  ⟨{ channelCapacity := 1024, enabled := true }⟩

/-- How to keep locks. -/
structure LockConfig where
  pruneThreshold : UInt64
deriving DecidableEq, Repr

instance : Inhabited LockConfig :=
  ⟨{ pruneThreshold := UInt64.ofNat Locks.defaultThreshold }⟩

/-- The whole configuration. -/
structure Config where
  log : LogConfig
  events : EventConfig
  locks : LockConfig
  serviceName : String
  environment : String
deriving DecidableEq, Repr

instance : Inhabited Config :=
  ⟨{
    log := default,
    events := default,
    locks := default,
    serviceName := "instrument-market",
    environment := "development"
  }⟩

/-- What is wrong with a configuration. -/
inductive ConfigError where
  /-- The file is there but cannot be read as text. -/
  | unreadable
  /-- The text of the file is no configuration. -/
  | malformed
  /-- A field has a value that it may not have. -/
  | invalid (field reason : String)
deriving DecidableEq, Repr

namespace ConfigError

/-- The message of an error that concerns a single field. -/
def fieldMessage (field reason : String) : String :=
  s!"invalid config value for {field}: {reason}"

end ConfigError

namespace Config

/-- The levels of logging. -/
def levels : List String :=
  ["trace", "debug", "info", "warn", "error"]

/-- A list of texts, each in quotes. -/
def quotedList (texts : List String) : String :=
  "[" ++ String.intercalate ", " (texts.map Text.quoted) ++ "]"

/-- A configuration has to have a known level of logging, in any case of letters, and
sizes above zero.
-/
def validate (c : Config) : Except ConfigError Unit := do
  if !levels.contains (Text.lowered c.log.level) then
    throw
      (.invalid "log.level"
        s!"invalid log level '{c.log.level}', must be one of: {quotedList levels}")
  if c.events.channelCapacity = 0 then
    throw (.invalid "events.channel_capacity" "must be greater than 0")
  if c.locks.pruneThreshold = 0 then
    throw (.invalid "locks.prune_threshold" "must be greater than 0")

end Config

end DebtMarket
