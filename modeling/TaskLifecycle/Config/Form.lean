import TaskLifecycle.Config.Basic
import TaskLifecycle.Query.Form

/-!
# TaskLifecycle.Config.Form — JSON forms of configurations

A field that is left out has its built-in value.

* `toJson`, `ofJson?` of `DatabaseConfig`, `LoggingConfig`, `Paging`, `Config`.
-/

namespace TaskLifecycle

open Json (Fields text? flag? uint32?)

def Json.uint64? (v : Json) : Option UInt64 :=
  (Json.whole? 0 (UInt64.size - 1) v).map fun n => UInt64.ofNat n.toNat

namespace DatabaseConfig

def toJson (c : DatabaseConfig) : Json :=
  .object [
    ("acquire_timeout_seconds", .int c.acquireTimeout.toNat),
    ("max_connections", Json.ofUInt32 c.maxConnections),
    ("url", .string c.url)]

def ofJson? (v : Json) : Option DatabaseConfig := do
  let fields ← Fields.ofPartialJson? ["url", "max_connections", "acquire_timeout_seconds"] v
  let url ← fields.defaulted? text? "url" default.url
  let maxConnections ← fields.defaulted? uint32? "max_connections" default.maxConnections
  let acquireTimeout ← fields.defaulted? Json.uint64? "acquire_timeout_seconds" default.acquireTimeout
  return ⟨url, maxConnections, acquireTimeout⟩

end DatabaseConfig

namespace LoggingConfig

def toJson (c : LoggingConfig) : Json :=
  .object [("json", .bool c.json), ("level", Json.ofOption .string c.level)]

def ofJson? (v : Json) : Option LoggingConfig := do
  let fields ← Fields.ofPartialJson? ["level", "json"] v
  let level ← fields.defaulted? (Json.orNull? text?) "level" default.level
  let json ← fields.defaulted? flag? "json" default.json
  return ⟨level, json⟩

end LoggingConfig

def Paging.ofJson? (v : Json) : Option Paging := do
  let fields ← Fields.ofPartialJson? ["default_page_size", "max_page_size"] v
  let defaultSize ← fields.defaulted? uint32? "default_page_size" Paging.default.defaultSize
  let maxSize ← fields.defaulted? uint32? "max_page_size" Paging.default.maxSize
  return ⟨defaultSize, maxSize⟩

namespace Config

def toJson (c : Config) : Json :=
  .object [
    ("database", c.database.toJson),
    ("logging", c.logging.toJson),
    ("pagination", c.pagination.toJson)]

def ofJson? (v : Json) : Option Config := do
  let fields ← Fields.ofPartialJson? ["database", "logging", "pagination"] v
  let database ← fields.defaulted? DatabaseConfig.ofJson? "database" DatabaseConfig.default
  let logging ← fields.defaulted? LoggingConfig.ofJson? "logging" LoggingConfig.default
  let pagination ← fields.defaulted? Paging.ofJson? "pagination" Paging.default
  return ⟨database, logging, pagination⟩

end Config
end TaskLifecycle
