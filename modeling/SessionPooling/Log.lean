/-! What the library reports about its work while it runs. An entry is data: its wording is
fixed and the values that belong to it are fields. -/
namespace SessionPooling

inductive LogLevel where
  | debug
  | info
  | warn
  | error
deriving DecidableEq

namespace LogLevel

def label : LogLevel → String
  | debug => "DEBUG"
  | info => "INFO"
  | warn => "WARN"
  | error => "ERROR"

end LogLevel

inductive LogValue where
  | number (n : Nat)
  | text (s : String)
deriving DecidableEq

/-- One report. The target names the part of the library that made it. -/
structure LogEntry where
  level : LogLevel
  target : String
  message : String
  fields : List (String × LogValue)
deriving DecidableEq

end SessionPooling
