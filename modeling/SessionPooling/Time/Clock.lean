import SessionPooling.Text.Record
import SessionPooling.Time.Calendar

/-! Clocks. One that is set by hand stands still until it is moved, so looking at it and
waiting leave it as it is. One that runs shows a later time at every look, and goes on while
someone waits. Sleeping moves both kinds, and is written down. -/
namespace SessionPooling

/-- The present time, every sleep so far, oldest first, and whether time passes by itself. -/
structure Clock where
  now : Instant
  sleeps : List Duration
  runs : Bool
deriving DecidableEq

namespace Clock

def startingAt (start : Instant) : Clock := ⟨start, [], false⟩

/-- A clock that runs. It starts in 1970, for want of a better time. -/
def running : Clock := ⟨⟨0, by decide⟩, [], true⟩

/-- Moves the clock forward, no further than the last instant. -/
def advance (clock : Clock) (d : Duration) : Clock := { clock with now := clock.now.after d }

def set (clock : Clock) (time : Instant) : Clock := { clock with now := time }

def sleep (clock : Clock) (d : Duration) : Clock :=
  { clock.advance d with sleeps := clock.sleeps ++ [d] }

/-- What the clock shows after someone waited for something else than the clock. -/
def wait (clock : Clock) (d : Duration) : Clock := if clock.runs then clock.advance d else clock

/-- The time between two looks that follow one another at once. -/
def glance : Duration := ⟨1000⟩

def look (clock : Clock) : Instant × Clock := (clock.now, clock.wait glance)

theorem wait_of_not_runs {clock : Clock} (still : clock.runs = false) (d : Duration) :
    clock.wait d = clock := by
  simp [wait, still]

theorem look_of_not_runs {clock : Clock} (still : clock.runs = false) :
    clock.look = (clock.now, clock) := by
  rw [look, wait_of_not_runs still]

@[simp] theorem runs_wait (clock : Clock) (d : Duration) : (clock.wait d).runs = clock.runs := by
  unfold wait
  split <;> rfl

@[simp] theorem sleeps_wait (clock : Clock) (d : Duration) :
    (clock.wait d).sleeps = clock.sleeps := by
  unfold wait
  split <;> rfl

@[simp] theorem now_sleep (clock : Clock) (d : Duration) : (clock.sleep d).now = clock.now.after d :=
  rfl

@[simp] theorem runs_sleep (clock : Clock) (d : Duration) : (clock.sleep d).runs = clock.runs := rfl

@[simp] theorem sleeps_sleep (clock : Clock) (d : Duration) :
    (clock.sleep d).sleeps = clock.sleeps ++ [d] := rfl

theorem now_le_wait (clock : Clock) (d : Duration) : clock.now ≤ (clock.wait d).now := by
  have bounded := clock.now.inRange
  unfold wait advance
  split
  · simp only [Instant.le_iff, Instant.nanos_after]
    omega
  · exact Int.le_refl _

def runningDiagnostic : String := "SystemClock"

/-- The spelling of a clock; one that is set by hand has two parts that its users share. -/
def diagnostic (clock : Clock) : String :=
  let shared := fun text => Text.record "Mutex" [("data", text)]
  if clock.runs then runningDiagnostic
  else
    Text.record "ManualClock"
      [("now", shared (Calendar.instantText clock.now)),
        ("sleeps", shared (Text.list (clock.sleeps.map Duration.text)))]

end Clock
end SessionPooling
