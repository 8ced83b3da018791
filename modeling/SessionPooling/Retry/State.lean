import SessionPooling.Text.Record
import SessionPooling.Time.Calendar

/-! The progress of one retrying run: how many attempts it has started and the instant at
which it gives up. -/
namespace SessionPooling

structure RetryState where
  /-- Attempts started so far. -/
  attempt : Nat
  deadline : Option Instant
  /-- The delay computed for the last conflict. -/
  lastDelay : Option Duration
deriving DecidableEq

namespace RetryState

/-- A run entered at `started`, which gives up `timeout` later. -/
def entered (started : Instant) (timeout : Option Duration) : RetryState :=
  ⟨0, timeout.map started.after, none⟩

def expiredAt (state : RetryState) (now : Instant) : Bool :=
  match state.deadline with
  | none => false
  | some deadline => decide (deadline ≤ now)

/-- Whether a sleep of `delay` from `now` would end after the deadline. -/
def overshoots (state : RetryState) (now : Instant) (delay : Duration) : Bool :=
  match state.deadline with
  | none => false
  | some deadline => decide (deadline < now.after delay)

def diagnostic (state : RetryState) : String :=
  Text.record "RetryState"
    [("attempt", Nat.repr state.attempt),
      ("deadline", Text.optional Calendar.instantText state.deadline),
      ("last_delay", Text.optional Duration.text state.lastDelay)]

end RetryState
end SessionPooling
