import SessionPooling.Identity
import SessionPooling.RetryHint

/-! Every way an operation can fail, as a cause, and the wording of each. Callers branch on
the cause: a conflict is retried, a session that is gone is replaced, and the rest is
passed on. -/
namespace SessionPooling

/-- The status that the service reports with a failure that is not a conflict. -/
inductive StatusCode where
  | unknown
  | unavailable
  | cancelled
  | deadlineExceeded
  | internal
  | invalidArgument
  | failedPrecondition
  | permissionDenied
  | resourceExhausted
deriving DecidableEq

namespace StatusCode

/-- The spelling in diagnostic texts. -/
def name : StatusCode → String
  | unknown => "Unknown"
  | unavailable => "Unavailable"
  | cancelled => "Cancelled"
  | deadlineExceeded => "DeadlineExceeded"
  | internal => "Internal"
  | invalidArgument => "InvalidArgument"
  | failedPrecondition => "FailedPrecondition"
  | permissionDenied => "PermissionDenied"
  | resourceExhausted => "ResourceExhausted"

/-- The spelling in messages. -/
def label : StatusCode → String
  | unknown => "UNKNOWN"
  | unavailable => "UNAVAILABLE"
  | cancelled => "CANCELLED"
  | deadlineExceeded => "DEADLINE_EXCEEDED"
  | internal => "INTERNAL"
  | invalidArgument => "INVALID_ARGUMENT"
  | failedPrecondition => "FAILED_PRECONDITION"
  | permissionDenied => "PERMISSION_DENIED"
  | resourceExhausted => "RESOURCE_EXHAUSTED"

def all : List StatusCode :=
  [unknown, unavailable, cancelled, deadlineExceeded, internal, invalidArgument,
    failedPrecondition, permissionDenied, resourceExhausted]

end StatusCode

/-- Why an operation was refused before the service was asked. -/
inductive Misuse where
  | sessionNotCreated
  | sessionAlreadyCreated
  | transactionCommitted
  | transactionRolledBack
  | transactionBegun
  /-- A refusal worded by the application. -/
  | other (text : String)
deriving DecidableEq

namespace Misuse

def text : Misuse → String
  | sessionNotCreated => "session has not been created on the backend"
  | sessionAlreadyCreated => "session has already been created"
  | transactionCommitted => "transaction is already committed"
  | transactionRolledBack => "transaction is already rolled back"
  | transactionBegun => "transaction has already begun"
  | other text => text

end Misuse

/-- Why a file could not be used. -/
inductive FileProblem where
  | notFound
  | isDirectory
  | notDirectory
  | nameTooLong
  /-- Names hold no character with the code point zero. -/
  | nulInName
  | notUtf8
deriving DecidableEq

namespace FileProblem

def text : FileProblem → String
  | notFound => "No such file or directory (os error 2)"
  | isDirectory => "Is a directory (os error 21)"
  | notDirectory => "Not a directory (os error 20)"
  | nameTooLong => "File name too long (os error 36)"
  | nulInName => "file name contained an unexpected NUL byte"
  | notUtf8 => "stream did not contain valid UTF-8"

end FileProblem

/-- Why settings were refused. -/
inductive ConfigProblem where
  | emptyPool
  | backoffBounds
  /-- The text is no TOML document, or a value in it has the wrong type. -/
  | malformed
  | unreadable (path : String) (cause : FileProblem)
  /-- The file was read and its contents were refused. -/
  | rejected (path : String) (cause : ConfigProblem)
  | unwritableDefault (path : String) (cause : FileProblem)
  | unwritable (path : String) (cause : FileProblem)
  /-- A number does not fit the integers of the file format. -/
  | unencodable
  | other (text : String)
deriving DecidableEq

namespace ConfigProblem

def heading : String := "Configuration error: "

def text : ConfigProblem → String
  | emptyPool => "pool size must be > 0"
  | backoffBounds => "initial_backoff_ms cannot exceed max_backoff_ms"
  | malformed => "<toml>"
  | unreadable path cause => "Failed to read config file '" ++ path ++ "': " ++ cause.text
  | rejected path cause =>
    "Failed to load config file '" ++ path ++ "': " ++ heading ++ cause.text
  | unwritableDefault path cause =>
    "Failed to write default config file '" ++ path ++ "': " ++ cause.text
  | unwritable path cause => "Failed to write config file '" ++ path ++ "': " ++ cause.text
  | unencodable => "Failed to serialize config: <toml>"
  | other text => text

end ConfigProblem

inductive Failure where
  | poolExhausted (timeout : Duration)
  /-- A session was returned to a pool that holds its full number. -/
  | poolFull (capacity : Nat)
  | sessionNotFound (id : SessionId)
  /-- A conflict with another transaction, which may be retried. -/
  | aborted (message : String) (hint : Option RetryHint)
  /-- Any other failure of the service. -/
  | backend (code : StatusCode) (message : String)
  /-- A retrying run was started inside another run of the same executor. -/
  | nestedTransaction
  /-- The pool does not know where to create sessions. -/
  | notBound
  | invalidOperation (cause : Misuse)
  | config (cause : ConfigProblem)
  | application (message : String)
deriving DecidableEq

namespace Failure

def message : Failure → String
  | poolExhausted timeout =>
    "Pool exhausted: no session available within " ++ timeout.text
  | poolFull capacity => "Pool full: capacity is " ++ Nat.repr capacity
  | sessionNotFound id => "Session not found: " ++ id.text
  | aborted message _ => "Transaction aborted: " ++ message
  | backend code message => "Backend error (" ++ code.label ++ "): " ++ message
  | nestedTransaction => "Nested transactions are not supported"
  | notBound => "Pool is not bound to a backend"
  | invalidOperation cause => "Invalid operation: " ++ cause.text
  | config cause => ConfigProblem.heading ++ cause.text
  | application message => "Application error: " ++ message

/-- The spelling of the cause with all its parts. An application's failure is opaque. -/
def diagnostic? : Failure → Option String
  | poolExhausted timeout => some (Text.record "PoolExhausted" [("timeout", timeout.text)])
  | poolFull capacity => some (Text.record "PoolFull" [("capacity", Nat.repr capacity)])
  | sessionNotFound id => some (Text.applied "SessionNotFound" id.diagnostic)
  | aborted message hint =>
    some (Text.record "Aborted"
      [("message", Text.quoted message),
        ("retry_delay", Text.optional RetryHint.diagnostic hint)])
  | backend code message =>
    some (Text.record "Backend" [("code", code.name), ("message", Text.quoted message)])
  | nestedTransaction => some "NestedTransaction"
  | notBound => some "NotBound"
  | invalidOperation cause => some (Text.applied "InvalidOperation" (Text.quoted cause.text))
  | config cause => some (Text.applied "Config" (Text.quoted cause.text))
  | application _ => none

def isConflict : Failure → Bool
  | aborted .. => true
  | _ => false

/-- Whether the service reports that the session is gone. -/
def isNotFound : Failure → Bool
  | sessionNotFound _ => true
  | _ => false

def hint? : Failure → Option RetryHint
  | aborted _ hint => hint
  | _ => none

def code? : Failure → Option StatusCode
  | backend code _ => some code
  | _ => none

def source? : Failure → Option String
  | application message => some message
  | _ => none

end Failure
end SessionPooling
