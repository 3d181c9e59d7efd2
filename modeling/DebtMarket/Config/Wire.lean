import DebtMarket.Config
import DebtMarket.Toml.Basic

/-! Configurations in JSON and in TOML. Every field and every group of fields may be left
out.
-/

namespace DebtMarket

namespace LogFormat

/-- The format that a TOML value names. -/
def ofToml? (value : Toml) : Option LogFormat :=
  value.choice?.bind Vocabulary.ofWord?

end LogFormat

namespace LogConfig

/-- The names of the fields, in order. -/
def fields : List String :=
  ["level", "format"]

/-- In JSON the group is a record. -/
instance : Json.Codec LogConfig where
  encode c :=
    .obj
      [
        ("level", Json.encode c.level),
        ("format", Json.encode c.format)
      ]
  decode j := do
    let r ← Json.record? fields 0 j
    let usual : LogConfig := default
    return {
      level := ← r.readOr "level" usual.level,
      format := ← r.readOr "format" usual.format
    }

/-- The group of fields that a TOML value holds. -/
def ofToml? (value : Toml) : Option LogConfig := do
  let r ← value.record? fields
  let usual : LogConfig := default
  return {
    level := ← Toml.field Toml.string? r "level" usual.level,
    format := ← Toml.field LogFormat.ofToml? r "format" usual.format
  }

end LogConfig

namespace EventConfig

/-- The names of the fields, in order. -/
def fields : List String :=
  ["channel_capacity", "enabled"]

/-- In JSON the group is a record. -/
instance : Json.Codec EventConfig where
  encode c :=
    .obj
      [
        ("channel_capacity", Json.encode c.channelCapacity),
        ("enabled", Json.encode c.enabled)
      ]
  decode j := do
    let r ← Json.record? fields 0 j
    let usual : EventConfig := default
    return {
      channelCapacity := ← r.readOr "channel_capacity" usual.channelCapacity,
      enabled := ← r.readOr "enabled" usual.enabled
    }

/-- The group of fields that a TOML value holds. -/
def ofToml? (value : Toml) : Option EventConfig := do
  let r ← value.record? fields
  let usual : EventConfig := default
  return {
    channelCapacity :=
      ← Toml.field Toml.natural? r "channel_capacity" usual.channelCapacity,
    enabled := ← Toml.field Toml.boolean? r "enabled" usual.enabled
  }

end EventConfig

namespace LockConfig

/-- The names of the fields, in order. -/
def fields : List String :=
  ["prune_threshold"]

/-- In JSON the group is a record. -/
instance : Json.Codec LockConfig where
  encode c :=
    .obj
      [
        ("prune_threshold", Json.encode c.pruneThreshold)
      ]
  decode j := do
    let r ← Json.record? fields 0 j
    let usual : LockConfig := default
    return { pruneThreshold := ← r.readOr "prune_threshold" usual.pruneThreshold }

/-- The group of fields that a TOML value holds. -/
def ofToml? (value : Toml) : Option LockConfig := do
  let r ← value.record? fields
  let usual : LockConfig := default
  return {
    pruneThreshold :=
      ← Toml.field Toml.natural? r "prune_threshold" usual.pruneThreshold
  }

end LockConfig

namespace Config

/-- The names of the fields, in order. -/
def fields : List String :=
  ["log", "events", "locks", "service_name", "environment"]

/-- In JSON a configuration is a record. -/
instance : Json.Codec Config where
  encode c :=
    .obj
      [
        ("log", Json.encode c.log),
        ("events", Json.encode c.events),
        ("locks", Json.encode c.locks),
        ("service_name", Json.encode c.serviceName),
        ("environment", Json.encode c.environment)
      ]
  decode j := do
    let r ← Json.record? fields 0 j
    let usual : Config := default
    return {
      log := ← r.readOr "log" usual.log,
      events := ← r.readOr "events" usual.events,
      locks := ← r.readOr "locks" usual.locks,
      serviceName := ← r.readOr "service_name" usual.serviceName,
      environment := ← r.readOr "environment" usual.environment
    }

/-- The configuration that a TOML value holds. -/
def ofToml? (value : Toml) : Option Config := do
  let r ← value.record? fields
  let usual : Config := default
  return {
    log := ← Toml.field LogConfig.ofToml? r "log" usual.log,
    events := ← Toml.field EventConfig.ofToml? r "events" usual.events,
    locks := ← Toml.field LockConfig.ofToml? r "locks" usual.locks,
    serviceName := ← Toml.field Toml.string? r "service_name" usual.serviceName,
    environment := ← Toml.field Toml.string? r "environment" usual.environment
  }

end Config

end DebtMarket
