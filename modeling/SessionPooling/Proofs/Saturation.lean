import SessionPooling.Time.Clock

/-! Time that stops at the last instant. A calendar does its arithmetic with spans, which may be
negative and of which there is a longest. So there are two places where an addition can fail: the
duration may be too long for a span, and the sum may lie beyond the last instant. Either way the
last instant stands in, and that is the exact sum cut off in one place: no span is too short to
reach from the first instant to the last. -/
namespace SessionPooling

namespace Instant
variable {t u : Instant} {a b : Duration}

theorem after_mono (earlier : t ≤ u) (shorter : a ≤ b) : t.after a ≤ u.after b := by
  simp only [le_iff, nanos_after, Duration.le_iff] at *
  omega

/-- What the first addition cuts off, the second would have cut off as well. -/
theorem after_after (t : Instant) (a b : Duration) : (t.after a).after b = t.after (a + b) := by
  apply ext
  simp only [nanos_after, Duration.nanos_add]
  omega

@[simp] theorem after_zero (t : Instant) : t.after .zero = t := by
  have bounded := t.inRange.2
  apply ext
  simp only [nanos_after, Duration.zero]
  omega

theorem nanos_elapsed (earlier later : Instant) :
    ((earlier.elapsed later).nanos : Int) = max (later.nanos - earlier.nanos) 0 :=
  Int.ofNat_toNat _

theorem nanos_elapsed_after (t : Instant) (d : Duration) :
    ((t.elapsed (t.after d)).nanos : Int) = min (d.nanos : Int) (latestNanos - t.nanos) := by
  have bounded := t.inRange.2
  rw [nanos_elapsed, nanos_after]
  omega

theorem ofNanos?_eq_none {nanos : Int} (outside : latestNanos < nanos) :
    ofNanos? nanos = none := by
  apply dif_neg
  omega

theorem ofNanos?_nanos (t : Instant) : ofNanos? t.nanos = some t := dif_pos t.inRange

end Instant

/-- What a calendar can do with instants, by means of spans. -/
structure SpanArithmetic (δ : Type) where
  ofDuration? : Duration → Option δ
  add? : Instant → δ → Option Instant
  between : Instant → Instant → δ
  toDuration? : δ → Option Duration

namespace SpanArithmetic
variable {δ : Type} {spans : SpanArithmetic δ} {nanos : δ → Int} {longest : Int}

/-- Each operation is exact, and fails just where the exact value is out of range. -/
structure Exact (spans : SpanArithmetic δ) (nanos : δ → Int) (longest : Int) : Prop where
  ofDuration : ∀ d, (spans.ofDuration? d).map nanos =
    if d.nanos ≤ longest then some (d.nanos : Int) else none
  add : ∀ t span, spans.add? t span = Instant.ofNanos? (t.nanos + nanos span)
  between : ∀ earlier later, nanos (spans.between earlier later) = later.nanos - earlier.nanos
  toDuration : ∀ span, spans.toDuration? span =
    if 0 ≤ nanos span then some ⟨(nanos span).toNat⟩ else none
  spacious : latestNanos - earliestNanos ≤ longest

/-- An instant and a duration added in two steps, each of which may fail. -/
def after (spans : SpanArithmetic δ) (t : Instant) (d : Duration) : Instant :=
  ((spans.ofDuration? d).bind (spans.add? t)).getD .latest

/-- The time between two instants, as a span first. -/
def elapsed (spans : SpanArithmetic δ) (earlier later : Instant) : Duration :=
  (spans.toDuration? (spans.between earlier later)).getD .zero

theorem after_eq (exact : spans.Exact nanos longest) (t : Instant) (d : Duration) :
    spans.after t d = t.after d := by
  have converted := exact.ofDuration d
  have bounded := t.inRange
  have spacious := exact.spacious
  unfold after
  cases found : spans.ofDuration? d with
  | none =>
    -- A duration that is longer than every span reaches beyond the last instant.
    rw [found, Option.map_none] at converted
    have tooLong : ¬ (d.nanos : Int) ≤ longest := by
      intro short
      rw [if_pos short] at converted
      cases converted
    apply Instant.ext
    simp only [Option.bind_none, Option.getD_none, Instant.latest, Instant.nanos_after]
    omega
  | some span =>
    have same : nanos span = d.nanos := by
      rw [found, Option.map_some] at converted
      split at converted
      · exact Option.some.inj converted
      · cases converted
    rw [Option.bind_some, exact.add, same]
    by_cases reached : t.nanos + d.nanos ≤ latestNanos
    · have sum : t.nanos + d.nanos = (t.after d).nanos := by
        rw [Instant.nanos_after]
        omega
      rw [sum, Instant.ofNanos?_nanos, Option.getD_some]
    · rw [Instant.ofNanos?_eq_none (Int.not_le.1 reached), Option.getD_none]
      apply Instant.ext
      simp only [Instant.latest, Instant.nanos_after]
      omega

theorem elapsed_eq (exact : spans.Exact nanos longest) (earlier later : Instant) :
    spans.elapsed earlier later = earlier.elapsed later := by
  unfold elapsed
  rw [exact.toDuration, exact.between]
  split
  · rfl
  next negative =>
    apply Duration.ext
    simp only [Option.getD_none, Duration.zero, Instant.elapsed]
    omega

end SpanArithmetic

namespace Clock

/-- What moves a clock that is set by hand, without setting it. -/
inductive Move where
  | advance (d : Duration)
  | sleep (d : Duration)

namespace Move

def length : Move → Duration
  | advance d => d
  | sleep d => d

def slept : Move → List Duration
  | advance _ => []
  | sleep d => [d]

end Move

def move (clock : Clock) : Move → Clock
  | .advance d => clock.advance d
  | .sleep d => clock.sleep d

def total : List Move → Duration
  | [] => .zero
  | m :: moves => m.length + total moves

theorem now_move (clock : Clock) (m : Move) : (clock.move m).now = clock.now.after m.length := by
  cases m <;> rfl

theorem sleeps_move (clock : Clock) (m : Move) :
    (clock.move m).sleeps = clock.sleeps ++ m.slept := by
  cases m with
  | advance d => exact (List.append_nil _).symm
  | sleep d => rfl

theorem foldl_move (moves : List Move) (clock : Clock) :
    (moves.foldl move clock).now = clock.now.after (total moves) ∧
      (moves.foldl move clock).sleeps = clock.sleeps ++ moves.flatMap Move.slept := by
  induction moves generalizing clock with
  | nil => exact ⟨clock.now.after_zero.symm, (List.append_nil _).symm⟩
  | cons m moves ih =>
    obtain ⟨now, sleeps⟩ := ih (clock.move m)
    rw [List.foldl_cons, now, sleeps, now_move, sleeps_move, Instant.after_after,
      List.append_assoc]
    exact ⟨rfl, rfl⟩

end Clock

namespace SpanArithmetic

section
variable {δ : Type} {spans : SpanArithmetic δ} {nanos : δ → Int} {longest : Int}

/-- How time adds up. A duration added to an instant by way of spans gives the exact sum, or the
last instant if that is sooner, so that the sum grows with both and durations may be added one by
one or together; the time elapsed is the exact difference, or nothing if that is negative, and
after an addition it is what was added, as far as there is time left. So a clock that is set by
hand, advanced and slept on shows its start and all that was added to it together, and has written
down the sleeps in their order. -/
theorem time_adds_up (exact : spans.Exact nanos longest) :
    (∀ t d, spans.after t d = t.after d ∧
      (spans.after t d).nanos = min (t.nanos + d.nanos) latestNanos) ∧
    (∀ t u a b, t ≤ u → a ≤ b → spans.after t a ≤ spans.after u b) ∧
    (∀ t a b, spans.after (spans.after t a) b = spans.after t (a + b)) ∧
    (∀ t u, spans.elapsed t u = t.elapsed u ∧
      ((spans.elapsed t u).nanos : Int) = max (u.nanos - t.nanos) 0) ∧
    (∀ t a, ((spans.elapsed t (spans.after t a)).nanos : Int) =
      min (a.nanos : Int) (latestNanos - t.nanos)) ∧
    ∀ start moves, let clock := List.foldl Clock.move (.startingAt start) moves
      clock.now = spans.after start (Clock.total moves) ∧
        clock.sleeps = moves.flatMap Clock.Move.slept := by
  simp only [after_eq exact, elapsed_eq exact, true_and]
  refine ⟨Instant.nanos_after, fun _ _ _ _ => Instant.after_mono, Instant.after_after,
    Instant.nanos_elapsed, Instant.nanos_elapsed_after, fun start moves => ?_⟩
  obtain ⟨now, sleeps⟩ := Clock.foldl_move moves (.startingAt start)
  exact ⟨now, sleeps⟩

end

end SpanArithmetic

/-- A span as whole seconds, which may be negative, and the nanoseconds after them. -/
structure SplitSpan where
  seconds : Int
  subsecond : Nat
  normal : subsecond < 1000000000

namespace SplitSpan

def nanos (span : SplitSpan) : Int := span.seconds * 1000000000 + span.subsecond

/-- The longest span has as many milliseconds as fit sixty-four bits with a sign. -/
def Holds (d : Duration) : Prop :=
  d.seconds < 9223372036854775 ∨ d.seconds = 9223372036854775 ∧ d.subsecond ≤ 807000000

instance (d : Duration) : Decidable (Holds d) :=
  inferInstanceAs (Decidable (_ ∨ _ ∧ _))

def ofDuration? (d : Duration) : Option SplitSpan :=
  if Holds d then some ⟨d.seconds, d.subsecond, Nat.mod_lt _ (by decide)⟩ else none

def addTo? (t : Instant) (span : SplitSpan) : Option Instant :=
  let subsecond := t.subsecond + span.subsecond
  let seconds := t.seconds + span.seconds + (subsecond / 1000000000 : Nat)
  Instant.ofNanos? (seconds * 1000000000 + (subsecond % 1000000000 : Nat))

def between (earlier later : Instant) : SplitSpan :=
  let subsecond : Int := later.subsecond - earlier.subsecond
  ⟨later.seconds - earlier.seconds + subsecond / 1000000000, (subsecond % 1000000000).toNat,
    by omega⟩

def toDuration? (span : SplitSpan) : Option Duration :=
  if span.seconds < 0 then none else some ⟨span.seconds.toNat * 1000000000 + span.subsecond⟩

/-- Seconds and nanoseconds apart, with a carry between them. -/
def arithmetic : SpanArithmetic SplitSpan := ⟨ofDuration?, addTo?, between, toDuration?⟩

theorem holds_iff (d : Duration) :
    Holds d ↔ (d.nanos : Int) ≤ 9223372036854775807000000 := by
  simp only [Holds, Duration.seconds, Duration.subsecond]
  omega

theorem nanos_nonneg_iff (span : SplitSpan) : 0 ≤ span.nanos ↔ ¬ span.seconds < 0 := by
  have normal := span.normal
  rw [nanos]
  omega

theorem arithmetic_exact : arithmetic.Exact nanos 9223372036854775807000000 where
  ofDuration d := by
    have whole : (d.seconds : Int) * 1000000000 + d.subsecond = d.nanos := by
      simp only [Duration.seconds, Duration.subsecond]
      omega
    show (ofDuration? d).map nanos = _
    simp only [ofDuration?, ← holds_iff]
    split
    · exact congrArg some whole
    · rfl
  add t span := by
    simp only [arithmetic, addTo?, nanos, Instant.seconds, Instant.subsecond]
    congr 1
    omega
  between earlier later := by
    simp only [arithmetic, between, nanos, Instant.seconds, Instant.subsecond]
    omega
  toDuration span := by
    show toDuration? span = _
    simp only [toDuration?, nanos_nonneg_iff, ite_not]
    split
    · rfl
    · have same : span.seconds.toNat * 1000000000 + span.subsecond = span.nanos.toNat := by
        rw [nanos]
        omega
      rw [same]
  spacious := by decide

end SplitSpan

namespace SpanArithmetic

/-- A carry from before 1970, and the longest duration whose seconds fit sixty-four bits, which is
longer than every span. -/
theorem time_adds_up_of_split :
    let spans := SplitSpan.arithmetic
    let start : Instant := ⟨-1, by decide⟩
    let moves : List Clock.Move := [.advance ⟨500000000⟩, .sleep ⟨1000000001⟩]
    let longest : Duration := ⟨18446744073709551615999999999⟩
    spans.Exact SplitSpan.nanos 9223372036854775807000000 ∧
      (spans.after start (Clock.total moves)).nanos = 1500000000 ∧
      (List.foldl Clock.move (.startingAt start) moves).now =
        spans.after start (Clock.total moves) ∧
      (spans.ofDuration? longest).isNone ∧ (spans.after .earliest longest).nanos = latestNanos := by
  intro spans start moves longest
  obtain ⟨exactly, -, -, -, -, driven⟩ := time_adds_up SplitSpan.arithmetic_exact
  refine ⟨SplitSpan.arithmetic_exact, ?_, (driven start moves).1, by decide, ?_⟩
  · exact (exactly start (Clock.total moves)).2.trans (by decide)
  · exact (exactly .earliest longest).2.trans (by decide)

end SpanArithmetic
end SessionPooling
