import SessionPooling.Config.Codec
import SessionPooling.Data.Records
import SessionPooling.Outcome

/-! Settings as documents: reading with the defaults for everything left out, and writing with
every field that says something. -/
namespace SessionPooling

def Settings.document (settings : Settings) : Document :=
  [("pool", settings.pool.toFields), ("retry", settings.retry.toFields)]

namespace Codec

/-- Settings from a text. A document that reads but breaks a rule of the settings is
refused with that rule, and any other fault is `malformed`. -/
def parse (codec : Codec) (text : String) : Except ConfigProblem Settings :=
  match (codec.read? text).bind (Settings.ofDatum? Datum.files) with
  | none => .error .malformed
  | some settings => settings.validate.map fun _ => settings

/-- Settings as a text. There is none when they hold something that texts cannot show. -/
def print (codec : Codec) (settings : Settings) : Outcome String :=
  match codec.write settings.document with
  | .text text => .ok text
  | .refused => .error (.config .unencodable)
  | .panic => .panic

end Codec

namespace Settings

/-- The file that an application starts from: the defaults, with a comment for each. -/
def standardLines : List String :=
  ["# Spool session pool configuration",
    "",
    "[pool]",
    "# Strategy: \"fixed\" (default), \"bursty\", \"pinging\" or \"transaction_pinging\"",
    "kind = \"fixed\"",
    "# Capacity; for \"bursty\" this is the number of idle sessions kept around",
    "size = 10",
    "# Seconds get() waits for a free session before failing",
    "default_timeout_secs = 10",
    "# Fixed pools probe sessions idle for at least this many minutes",
    "max_age_minutes = 55",
    "# Pinging pools refresh sessions after this many seconds",
    "ping_interval_secs = 3000",
    "# database_role = \"reader\"",
    "# [pool.labels]",
    "# env = \"prod\"",
    "",
    "[retry]",
    "# Give up retrying aborted transactions after this many seconds (0 = never)",
    "timeout_secs = 30",
    "# First backoff step and ceiling, in milliseconds",
    "initial_backoff_ms = 1000",
    "max_backoff_ms = 32000",
    "# Randomize backoff to avoid synchronized retries",
    "jitter = true"]

def standardText : String := String.join (standardLines.map (· ++ "\n"))

end Settings
end SessionPooling
