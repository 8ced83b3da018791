import SessionPooling.Failure

/-! Settings of a retrying executor: its deadline and the delays between attempts. -/
namespace SessionPooling

structure RetryConfig where
  /-- Seconds until a run gives up; zero means never. -/
  timeoutSecs : Nat
  /-- A fixed delay for conflicts without a hint; without it the delay doubles. -/
  defaultRetryDelayMs : Option Nat
  initialBackoffMs : Nat
  /-- The longest computed delay, which also caps hints. -/
  maxBackoffMs : Nat
  jitter : Bool
deriving DecidableEq

namespace RetryConfig

def standard : RetryConfig where
  timeoutSecs := 30
  defaultRetryDelayMs := none
  initialBackoffMs := 1000
  maxBackoffMs := 32000
  jitter := true

/-- Whole milliseconds, as far as sixty-four bits hold them. -/
def wordMillis (d : Duration) : Nat := min d.millis maxWord

/-- The deadline is kept in whole seconds, rounded down but never to zero, since zero
stands for no deadline. -/
def withTimeout (config : RetryConfig) (timeout : Option Duration) : RetryConfig :=
  { config with timeoutSecs := timeout.elim 0 fun t => max t.seconds 1 }

def withDefaultRetryDelay (config : RetryConfig) (delay : Duration) : RetryConfig :=
  { config with defaultRetryDelayMs := some (wordMillis delay) }

def withInitialBackoff (config : RetryConfig) (backoff : Duration) : RetryConfig :=
  { config with initialBackoffMs := wordMillis backoff }

def withMaxBackoff (config : RetryConfig) (backoff : Duration) : RetryConfig :=
  { config with maxBackoffMs := wordMillis backoff }

def withJitter (config : RetryConfig) (jitter : Bool) : RetryConfig :=
  { config with jitter }

def timeout (config : RetryConfig) : Option Duration :=
  if config.timeoutSecs = 0 then none else some (.ofSeconds config.timeoutSecs)

def defaultRetryDelay (config : RetryConfig) : Option Duration :=
  config.defaultRetryDelayMs.map .ofMillis

def initialBackoff (config : RetryConfig) : Duration := .ofMillis config.initialBackoffMs

def maxBackoff (config : RetryConfig) : Duration := .ofMillis config.maxBackoffMs

def validate (config : RetryConfig) : Except ConfigProblem Unit :=
  if config.initialBackoffMs > config.maxBackoffMs then .error .backoffBounds else .ok ()

def diagnostic (config : RetryConfig) : String :=
  Text.record "RetryConfig"
    [("timeout_secs", Nat.repr config.timeoutSecs),
      ("default_retry_delay_ms", Text.optional Nat.repr config.defaultRetryDelayMs),
      ("initial_backoff_ms", Nat.repr config.initialBackoffMs),
      ("max_backoff_ms", Nat.repr config.maxBackoffMs),
      ("jitter", Text.flag config.jitter)]

end RetryConfig
end SessionPooling
