import SessionPooling.Config.Settings
import SessionPooling.Data.Decode
import SessionPooling.Mutation

/-! The written form of each record of the library: which fields it has, in which order,
which of them may be absent, and which are left out when they say nothing. -/
namespace SessionPooling

open Datum (Dialect)

def named? (choices : List α) (name : α → String) (s : String) : Option α :=
  choices.find? fun a => name a == s

def Datum.ofNat (n : Nat) : Datum := .integer n

def Datum.ofLabels (labels : Labels) : Datum :=
  .table (labels.entries.map fun e => (e.1, .text e.2))

/-- A field that is left out when it has no value. -/
def Datum.fieldOf (name : String) (write : α → Datum) : Option α → List (String × Datum)
  | none => []
  | some a => [(name, write a)]

namespace SessionId

def ofDatum? (d : Datum) : Option SessionId := d.toText?.map .mk

def toDatum (id : SessionId) : Datum := .text id.text

end SessionId

namespace TransactionId

def ofDatum? (d : Datum) : Option TransactionId := d.toText?.map .mk

def toDatum (id : TransactionId) : Datum := .text id.text

end TransactionId

namespace RetryHint

def ofDatum? (dialect : Dialect) (d : Datum) : Option RetryHint := do
  let fields ← d.toFields? dialect ["seconds", "nanos"]
  let seconds ← fields.required "seconds" (·.toNat? maxWord)
  let nanos ← fields.required "nanos" (·.toNat? maxHalfWord)
  some { seconds, nanos }

def toDatum (hint : RetryHint) : Datum :=
  .table [("seconds", .ofNat hint.seconds), ("nanos", .ofNat hint.nanos)]

end RetryHint

namespace Template

def ofDatum? (dialect : Dialect) (d : Datum) : Option Template := do
  let fields ← d.toFields? dialect ["labels", "database_role"]
  let labels ← fields.optional "labels" .empty Datum.toLabels?
  let role ← fields.optional "database_role" none (Datum.toOption? Datum.toText?)
  some { labels, role }

def toDatum (template : Template) : Datum :=
  .table (("labels", .ofLabels template.labels) ::
    Datum.fieldOf "database_role" .text template.role)

end Template

namespace MutationKind

def ofDatum? (dialect : Dialect) : Datum → Option MutationKind :=
  Datum.toChoice? dialect (named? all name)

def toDatum (kind : MutationKind) : Datum := .text kind.name

end MutationKind

namespace Mutation

def ofDatum? (dialect : Dialect) (d : Datum) : Option Mutation := do
  let fields ← d.toFields? dialect ["op", "table", "columns", "values"]
  let kind ← fields.required "op" (MutationKind.ofDatum? dialect)
  let table ← fields.required "table" Datum.toText?
  let columns ← fields.required "columns" (Datum.toList? Datum.toText?)
  let rows ← fields.required "values" (Datum.toList? (Datum.toList? Datum.toText?))
  some { kind, table, columns, rows }

def toDatum (mutation : Mutation) : Datum :=
  .table
    [("op", mutation.kind.toDatum), ("table", .text mutation.table),
      ("columns", .list (mutation.columns.map .text)),
      ("values", .list (mutation.rows.map fun row => .list (row.map .text)))]

end Mutation

namespace PoolKind

def ofDatum? (dialect : Dialect) : Datum → Option PoolKind :=
  Datum.toChoice? dialect (named? all label)

def toDatum (kind : PoolKind) : Datum := .text kind.label

end PoolKind

namespace PoolConfig

def fieldNames : List String :=
  ["kind", "size", "default_timeout_secs", "max_age_minutes", "ping_interval_secs",
    "database_role", "labels"]

def ofDatum? (dialect : Dialect) (d : Datum) : Option PoolConfig := do
  let fields ← d.toFields? dialect fieldNames
  let kind ← fields.optional "kind" standard.kind (PoolKind.ofDatum? dialect)
  let size ← fields.optional "size" standard.size (·.toNat? maxWord)
  let defaultTimeoutSecs ←
    fields.optional "default_timeout_secs" standard.defaultTimeoutSecs (·.toNat? maxWord)
  let maxAgeMinutes ←
    fields.optional "max_age_minutes" standard.maxAgeMinutes (·.toNat? maxWord)
  let pingIntervalSecs ←
    fields.optional "ping_interval_secs" standard.pingIntervalSecs (·.toNat? maxWord)
  let role ← fields.optional "database_role" standard.role (Datum.toOption? Datum.toText?)
  let labels ← fields.optional "labels" standard.labels Datum.toLabels?
  some { kind, size, defaultTimeoutSecs, maxAgeMinutes, pingIntervalSecs, role, labels }

/-- The fields, without a role or labels that are not there. -/
def toFields (config : PoolConfig) : List (String × Datum) :=
  [("kind", config.kind.toDatum), ("size", .ofNat config.size),
    ("default_timeout_secs", .ofNat config.defaultTimeoutSecs),
    ("max_age_minutes", .ofNat config.maxAgeMinutes),
    ("ping_interval_secs", .ofNat config.pingIntervalSecs)] ++
    Datum.fieldOf "database_role" .text config.role ++
    if config.labels.isEmpty then [] else [("labels", .ofLabels config.labels)]

def toDatum (config : PoolConfig) : Datum := .table config.toFields

end PoolConfig

namespace RetryConfig

def fieldNames : List String :=
  ["timeout_secs", "default_retry_delay_ms", "initial_backoff_ms", "max_backoff_ms", "jitter"]

def ofDatum? (dialect : Dialect) (d : Datum) : Option RetryConfig := do
  let fields ← d.toFields? dialect fieldNames
  let timeoutSecs ← fields.optional "timeout_secs" standard.timeoutSecs (·.toNat? maxWord)
  let defaultRetryDelayMs ←
    fields.optional "default_retry_delay_ms" standard.defaultRetryDelayMs
      (Datum.toOption? (·.toNat? maxWord))
  let initialBackoffMs ←
    fields.optional "initial_backoff_ms" standard.initialBackoffMs (·.toNat? maxWord)
  let maxBackoffMs ←
    fields.optional "max_backoff_ms" standard.maxBackoffMs (·.toNat? maxWord)
  let jitter ← fields.optional "jitter" standard.jitter Datum.toBool?
  some { timeoutSecs, defaultRetryDelayMs, initialBackoffMs, maxBackoffMs, jitter }

def toFields (config : RetryConfig) : List (String × Datum) :=
  [("timeout_secs", .ofNat config.timeoutSecs)] ++
    Datum.fieldOf "default_retry_delay_ms" .ofNat config.defaultRetryDelayMs ++
    [("initial_backoff_ms", .ofNat config.initialBackoffMs),
      ("max_backoff_ms", .ofNat config.maxBackoffMs), ("jitter", .bool config.jitter)]

def toDatum (config : RetryConfig) : Datum := .table config.toFields

end RetryConfig

namespace Settings

def ofDatum? (dialect : Dialect) (d : Datum) : Option Settings := do
  let fields ← d.toFields? dialect ["pool", "retry"]
  let pool ← fields.optional "pool" standard.pool (PoolConfig.ofDatum? dialect)
  let retry ← fields.optional "retry" standard.retry (RetryConfig.ofDatum? dialect)
  some { pool, retry }

def toDatum (settings : Settings) : Datum :=
  .table [("pool", settings.pool.toDatum), ("retry", settings.retry.toDatum)]

end Settings
end SessionPooling
