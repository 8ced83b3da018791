import SessionPooling.Text.Decimal

/-! Lengths of time, counted in whole nanoseconds. There is no upper limit, so sums and
products are exact and every saturation in the library is a `min` that can be seen. -/
namespace SessionPooling

structure Duration where
  nanos : Nat
deriving DecidableEq

namespace Duration

instance : LE Duration := ⟨fun a b => a.nanos ≤ b.nanos⟩
instance : LT Duration := ⟨fun a b => a.nanos < b.nanos⟩
instance (a b : Duration) : Decidable (a ≤ b) := inferInstanceAs (Decidable (a.nanos ≤ b.nanos))
instance (a b : Duration) : Decidable (a < b) := inferInstanceAs (Decidable (a.nanos < b.nanos))
instance : Add Duration := ⟨fun a b => ⟨a.nanos + b.nanos⟩⟩
/-- What is left of `a` after `b`, zero when `b` is longer. -/
instance : Sub Duration := ⟨fun a b => ⟨a.nanos - b.nanos⟩⟩

instance : Min Duration := ⟨fun a b => ⟨min a.nanos b.nanos⟩⟩

def zero : Duration := ⟨0⟩

def ofSeconds (n : Nat) : Duration := ⟨n * 1000000000⟩

def ofMillis (n : Nat) : Duration := ⟨n * 1000000⟩

def seconds (d : Duration) : Nat := d.nanos / 1000000000

def subsecond (d : Duration) : Nat := d.nanos % 1000000000

def millis (d : Duration) : Nat := d.nanos / 1000000

@[simp] theorem le_iff (a b : Duration) : a ≤ b ↔ a.nanos ≤ b.nanos := Iff.rfl

@[simp] theorem lt_iff (a b : Duration) : a < b ↔ a.nanos < b.nanos := Iff.rfl

@[simp] theorem nanos_add (a b : Duration) : (a + b).nanos = a.nanos + b.nanos := rfl

@[simp] theorem nanos_sub (a b : Duration) : (a - b).nanos = a.nanos - b.nanos := rfl

@[simp] theorem nanos_min (a b : Duration) : (min a b).nanos = min a.nanos b.nanos := rfl

theorem ext {a b : Duration} (h : a.nanos = b.nanos) : a = b := by
  cases a; cases b; cases h; rfl

/-- The spelling in messages: the largest of `s`, `ms`, `µs` and `ns` that is not above
the whole value, with the rest as a decimal fraction. -/
def text (d : Duration) : String :=
  if 1000000000 ≤ d.nanos then Text.scaled 9 d.nanos ++ "s"
  else if 1000000 ≤ d.nanos then Text.scaled 6 d.nanos ++ "ms"
  else if 1000 ≤ d.nanos then Text.scaled 3 d.nanos ++ "µs"
  else Nat.repr d.nanos ++ "ns"

end Duration
end SessionPooling
