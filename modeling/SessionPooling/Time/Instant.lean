import SessionPooling.Time.Duration

/-! Points in time, counted in nanoseconds from the start of 1970, within the years the
calendar can name. Adding a duration stops at the last instant; the time that elapsed
between two instants is never negative. -/
namespace SessionPooling

/-- The first instant, at the start of the year -262143. -/
abbrev earliestNanos : Int := -8334601228800 * 1000000000

/-- The last instant, one nanosecond before the year 262143. -/
abbrev latestNanos : Int := 8210266876799 * 1000000000 + 999999999

structure Instant where
  nanos : Int
  inRange : earliestNanos ≤ nanos ∧ nanos ≤ latestNanos
deriving DecidableEq

namespace Instant

instance : LE Instant := ⟨fun a b => a.nanos ≤ b.nanos⟩
instance : LT Instant := ⟨fun a b => a.nanos < b.nanos⟩
instance (a b : Instant) : Decidable (a ≤ b) := inferInstanceAs (Decidable (a.nanos ≤ b.nanos))
instance (a b : Instant) : Decidable (a < b) := inferInstanceAs (Decidable (a.nanos < b.nanos))

@[simp] theorem le_iff (a b : Instant) : a ≤ b ↔ a.nanos ≤ b.nanos := Iff.rfl

@[simp] theorem lt_iff (a b : Instant) : a < b ↔ a.nanos < b.nanos := Iff.rfl

theorem ext {a b : Instant} (h : a.nanos = b.nanos) : a = b := by
  cases a; cases b; cases h; rfl

def earliest : Instant := ⟨earliestNanos, by decide⟩

def latest : Instant := ⟨latestNanos, by decide⟩

/-- The instant `nanos` nanoseconds after the start of 1970, if the calendar has it. -/
def ofNanos? (nanos : Int) : Option Instant :=
  if h : earliestNanos ≤ nanos ∧ nanos ≤ latestNanos then some ⟨nanos, h⟩ else none

/-- The instant `d` later, or the last instant if that lies beyond it. -/
def after (t : Instant) (d : Duration) : Instant :=
  ⟨min (t.nanos + d.nanos) latestNanos, by
    have := t.inRange
    omega⟩

@[simp] theorem nanos_after (t : Instant) (d : Duration) :
    (t.after d).nanos = min (t.nanos + d.nanos) latestNanos := rfl

/-- The time from `earlier` to `later`, zero when `later` is not after `earlier`. -/
def elapsed (earlier later : Instant) : Duration :=
  ⟨(later.nanos - earlier.nanos).toNat⟩

def seconds (t : Instant) : Int := t.nanos / 1000000000

def subsecond (t : Instant) : Nat := (t.nanos % 1000000000).toNat

end Instant
end SessionPooling
