import Mathlib.Algebra.BigOperators.Group.List.Basic
import Mathlib.Algebra.Group.Pi.Lemmas
import Mathlib.Algebra.GroupWithZero.Nat
import SessionPooling.Proofs.Nesting
import SessionPooling.Proofs.PoolsInStep
import SessionPooling.Proofs.Receipts

/-! What executors count comes from the receipts of their calls, and from nothing else. The counts
add up: those of a stretch of work are the ones of its parts, and each call adds the tally of its
receipt, however its attempts, the pool and the callback end. -/
namespace SessionPooling
variable {σ κ α β γ : Type}

attribute [ext] ExecutorStats

namespace ExecutorStats

instance : Zero ExecutorStats := ⟨zero⟩

instance : Add ExecutorStats :=
  ⟨fun s t => ⟨s.invocations + t.invocations, s.attempts + t.attempts, s.retries + t.retries,
    s.deadlineExceeded + t.deadlineExceeded⟩⟩

theorem add_eq (s t : ExecutorStats) :
    s + t = ⟨s.invocations + t.invocations, s.attempts + t.attempts, s.retries + t.retries,
      s.deadlineExceeded + t.deadlineExceeded⟩ := rfl

theorem zero_eq : (0 : ExecutorStats) = ⟨0, 0, 0, 0⟩ := rfl

instance : AddCommMonoid ExecutorStats where
  add_assoc s t u := by simp only [add_eq, Nat.add_assoc]
  add_comm s t := by simp only [add_eq, Nat.add_comm]
  zero_add s := by simp only [add_eq, zero_eq, Nat.zero_add]
  add_zero s := by simp only [add_eq, zero_eq, Nat.add_zero]
  nsmul := nsmulRec

end ExecutorStats

def Outcome.isConflict : Outcome α → Bool
  | .error e => e.isConflict
  | _ => false

/-- What a call adds to the counts of its executor. -/
def Receipt.tally (receipt : Receipt α) : ExecutorStats :=
  let invocations := receipt.admitted.toNat
  ⟨invocations, min (invocations + receipt.sleeps) Executor.attemptLimit, receipt.sleeps,
    (receipt.admitted && receipt.outcome.isConflict).toNat⟩

/-- What calls add to the counts of one executor. -/
def total (x : Nat) (calls : List (Receipt α)) : ExecutorStats :=
  ((calls.filter (·.executor = x)).map Receipt.tally).sum

@[simp] theorem total_nil (x : Nat) : total x ([] : List (Receipt α)) = 0 := rfl

@[simp] theorem total_append (x : Nat) (calls more : List (Receipt α)) :
    total x (calls ++ more) = total x calls + total x more := by
  simp [total]

theorem total_singleton (x : Nat) (receipt : Receipt α) :
    total x [receipt] =
      Pi.single (M := fun _ => ExecutorStats) receipt.executor receipt.tally x := by
  by_cases same : receipt.executor = x
  · subst same
    simp [total]
  · simp [total, same, Ne.symm same]

/-- What an executor has counted so far. -/
def System.counted (sys : System σ κ) (x : Nat) : Option ExecutorStats :=
  sys.executors[x]?.map (·.stats)

theorem System.counted_modify (sys : System σ κ) (x : Nat) (change : Executor → Executor)
    (own : ExecutorStats) (adds : ∀ executor, (change executor).stats = executor.stats + own)
    (y : Nat) :
    System.counted { sys with executors := sys.executors.modify x change } y =
      (sys.counted y).map (· + Pi.single (M := fun _ => ExecutorStats) x own y) := by
  simp only [System.counted, List.getElem?_modify]
  by_cases same : x = y
  · subst same
    cases sys.executors[x]? <;> simp [adds]
  · cases sys.executors[y]? <;> simp [same, Ne.symm same]

/-- Between two moments, executors counted `own` and the receipts that were filed meanwhile. -/
def Tallied (own : Nat → ExecutorStats) (before after : System σ (Receipts κ α)) : Prop :=
  ∃ calls, after.own.calls = before.own.calls ++ calls ∧
    ∀ x, after.counted x = (before.counted x).map (· + (own x + total x calls))

namespace Tallied
variable {own more : Nat → ExecutorStats} {before mid after : System σ (Receipts κ α)}

theorem of_counted (filed : after.own.calls = before.own.calls)
    (counted : ∀ x, after.counted x = (before.counted x).map (· + own x)) :
    Tallied own before after := by
  refine ⟨[], ?_, fun x => ?_⟩
  · rw [filed, List.append_nil]
  · rw [counted, total_nil, add_zero]

theorem of_same (filed : after.own.calls = before.own.calls)
    (executors : after.executors = before.executors) : Tallied 0 before after := by
  apply of_counted filed
  intro x
  simp only [System.counted, executors, Pi.zero_apply, add_zero, Option.map_id']

theorem trans (first : Tallied own before mid) (second : Tallied more mid after) :
    Tallied (own + more) before after := by
  obtain ⟨calls, filed, counted⟩ := first
  obtain ⟨later, filedLater, countedLater⟩ := second
  refine ⟨calls ++ later, ?_, fun x => ?_⟩
  · rw [filedLater, filed, List.append_assoc]
  · rw [countedLater, counted, Option.map_map, total_append]
    congr 1
    funext stats
    rw [Function.comp_apply, Pi.add_apply, add_assoc, add_add_add_comm]

/-- What the receipt of a call is for is accounted for when it is filed. -/
theorem file {receipt : Receipt α}
    (made : Tallied (Pi.single receipt.executor receipt.tally) before after) :
    Tallied 0 before (after.file receipt) := by
  obtain ⟨calls, filed, counted⟩ := made
  refine ⟨calls ++ [receipt], ?_, fun x => ?_⟩
  · rw [← List.append_assoc, ← filed]
    rfl
  · rw [total_append, total_singleton, Pi.zero_apply, zero_add, add_comm (total x calls)]
    exact counted x

end Tallied

/-- Between two moments of a call on an executor, the call itself counted `own` and slept
`sleeps` times. -/
structure Spent (x : Nat) (own : ExecutorStats) (sleeps : Nat)
    (before after : System σ (Receipts κ α)) : Prop where
  tallied : Tallied (Pi.single x own) before after
  slept : after.slept - after.own.elsewhere = before.slept - before.own.elsewhere + sleeps

namespace Spent
variable {x : Nat} {own more : ExecutorStats} {sleeps later : Nat}
  {before mid after : System σ (Receipts κ α)}

theorem of_same (own : after.own = before.own) (executors : after.executors = before.executors)
    (slept : after.env.clock.sleeps = before.env.clock.sleeps) : Spent x 0 0 before after := by
  constructor
  · rw [Pi.single_zero]
    exact .of_same (congrArg _ own) executors
  · simp [System.slept, own, slept]

theorem trans (first : Spent x own sleeps before mid) (second : Spent x more later mid after) :
    Spent x (own + more) (sleeps + later) before after := by
  constructor
  · rw [Pi.single_add]
    exact first.tallied.trans second.tallied
  · rw [second.slept, first.slept, Int.natCast_add, add_assoc]

end Spent

/-- Work of a call on an executor. `Q` relates its result to what it counts and how often it
sleeps. -/
def Sys.Spends (x : Nat) (work : Sys σ (Receipts κ α) β) (Q : β → ExecutorStats → Nat → Prop) :
    Prop :=
  ∀ sys, ∃ own sleeps, Spent x own sleeps sys (work sys).2 ∧ Q (work sys).1 own sleeps

/-- Nothing was counted, and there was no sleep. -/
def Free (own : ExecutorStats) (sleeps : Nat) : Prop := own = 0 ∧ sleeps = 0

namespace Sys.Spends
variable {x : Nat} {work : Sys σ (Receipts κ α) β} {next : β → Sys σ (Receipts κ α) γ}
  {P Q : β → ExecutorStats → Nat → Prop} {R : γ → ExecutorStats → Nat → Prop}

theorem pure (b : β) (holds : Q b 0 0) :
    Spends x (Pure.pure b : Sys σ (Receipts κ α) β) Q :=
  fun _ => ⟨0, 0, .of_same rfl rfl rfl, holds⟩

theorem bind (first : work.Spends x P)
    (rest : ∀ b own sleeps, P b own sleeps →
      (next b).Spends x fun c more later => R c (own + more) (sleeps + later)) :
    Spends x (work >>= next) R := by
  intro sys
  obtain ⟨own, sleeps, spent, holds⟩ := first sys
  obtain ⟨more, later, spentLater, holdsLater⟩ := rest _ own sleeps holds (work sys).2
  exact ⟨own + more, sleeps + later, spent.trans spentLater, holdsLater⟩

theorem mono (spends : work.Spends x P)
    (weaker : ∀ b own sleeps, P b own sleeps → Q b own sleeps) : work.Spends x Q := by
  intro sys
  obtain ⟨own, sleeps, spent, holds⟩ := spends sys
  exact ⟨own, sleeps, spent, weaker _ _ _ holds⟩

/-- Free work comes first. -/
theorem freely (free : work.Spends x fun _ => Free) (rest : ∀ b, (next b).Spends x R) :
    Spends x (work >>= next) R := by
  refine bind free ?_
  rintro b _ _ ⟨rfl, rfl⟩
  simpa only [zero_add] using rest b

theorem act {work : Act σ β} (awake : ∀ env, (work env).2.clock.sleeps = env.clock.sleeps) :
    Spends x (Sys.act work : Sys σ (Receipts κ α) β) fun _ => Free :=
  fun sys => ⟨0, 0, .of_same rfl rfl (awake sys.env), rfl, rfl⟩

/-- Work on the executor itself, which changes each count by so much. -/
theorem modify {change : Executor → Executor} {own : ExecutorStats}
    (adds : ∀ executor, (change executor).stats = executor.stats + own) :
    Spends x
      (fun sys : System σ (Receipts κ α) =>
        ((), { sys with executors := sys.executors.modify x change }))
      fun _ more sleeps => more = own ∧ sleeps = 0 := by
  intro sys
  have tallied : Tallied (Pi.single x own) sys
      { sys with executors := sys.executors.modify x change } :=
    .of_counted rfl (sys.counted_modify x change own adds)
  exact ⟨own, 0, ⟨tallied, (add_zero _).symm⟩, rfl, rfl⟩

theorem count {change : ExecutorStats → ExecutorStats} (own : ExecutorStats)
    (adds : ∀ stats, change stats = stats + own) :
    Spends x (Sys.count x change : Sys σ (Receipts κ α) Unit) fun _ more sleeps =>
      more = own ∧ sleeps = 0 :=
  modify fun executor => adds executor.stats

theorem sleep (delay : Duration) :
    Spends x (Sys.act (Act.sleep delay) : Sys σ (Receipts κ α) Unit) fun _ own sleeps =>
      own = 0 ∧ sleeps = 1 := by
  intro sys
  refine ⟨0, 1, ⟨?_, ?_⟩, rfl, rfl⟩
  · rw [Pi.single_zero]
    exact .of_same rfl rfl
  · simp only [Sys.act, Act.sleep, System.slept, Clock.sleeps_sleep, List.length_append,
      List.length_singleton]
    omega

end Sys.Spends

namespace Executor
variable {x : Nat}

/-- What a run spends on its decision after a conflict. -/
def AfterConflict.Spends : AfterConflict → ExecutorStats → Nat → Prop
  | .retry _, own, sleeps => own = ⟨0, 0, 1, 0⟩ ∧ sleeps = 1
  | .giveUp, own, sleeps => own = ⟨0, 0, 0, 1⟩ ∧ sleeps = 0
  | .panic, own, sleeps => Free own sleeps

theorem now_spends : Sys.Spends x (Sys.act Act.now : Sys σ (Receipts κ α) Instant) fun _ => Free :=
  .act fun env => Clock.sleeps_wait env.clock Clock.glance

theorem report_spends (entry : LogEntry) :
    Sys.Spends x (Sys.act (Act.report entry) : Sys σ (Receipts κ α) Unit) fun _ => Free :=
  .act fun _ => rfl

theorem touch_spends (session : Session) :
    Sys.Spends x (Sys.act session.touch : Sys σ (Receipts κ α) Session) fun _ => Free :=
  .act fun env => Clock.sleeps_wait env.clock Clock.glance

theorem enter_spends (thread : Thread) :
    Sys.Spends x (enter x thread : Sys σ (Receipts κ α) Unit) fun _ => Free :=
  .modify fun executor => (add_zero executor.stats).symm

theorem leave_spends (thread : Thread) :
    Sys.Spends x (leave x thread : Sys σ (Receipts κ α) Unit) fun _ => Free :=
  .modify fun executor => (add_zero executor.stats).symm

theorem giveUp_spends (entry : LogEntry) :
    Sys.Spends x
      (do
        Sys.count x countGivenUp
        Sys.act (Act.report entry)
        pure .giveUp : Sys σ (Receipts κ α) AfterConflict)
      AfterConflict.Spends := by
  apply Sys.Spends.bind (.count ⟨0, 0, 0, 1⟩ fun _ => rfl)
  rintro _ _ _ ⟨rfl, rfl⟩
  apply Sys.Spends.freely (report_spends entry)
  exact fun _ => .pure _ ⟨rfl, rfl⟩

variable [Service σ]

theorem drawFor_spends (config : RetryConfig) (conflict : Failure) :
    Sys.Spends x (Sys.act (drawFor config conflict) : Sys σ (Receipts κ α) Nat) fun _ => Free := by
  apply Sys.Spends.act
  intro env
  obtain ⟨-, same | drawn⟩ := drawFor_draws config conflict env
  · rw [same]
  · rw [drawn]

theorem delayUntilRetry_spends (config : RetryConfig) (conflict : Failure) (state : RetryState) :
    Sys.Spends x (delayUntilRetry x config conflict state : Sys σ (Receipts κ α) AfterConflict)
      AfterConflict.Spends := by
  apply Sys.Spends.freely now_spends
  intro now
  split
  · exact giveUp_spends _
  · apply Sys.Spends.freely (drawFor_spends config conflict)
    intro drawn
    split
    · exact .pure _ ⟨rfl, rfl⟩
    · split
      · exact giveUp_spends _
      · apply Sys.Spends.freely (report_spends _)
        intro _
        apply Sys.Spends.bind (.count ⟨0, 0, 1, 0⟩ fun _ => rfl)
        rintro _ _ _ ⟨rfl, rfl⟩
        apply Sys.Spends.bind (.sleep _)
        rintro _ _ _ ⟨rfl, rfl⟩
        exact .pure _ ⟨rfl, rfl⟩

/-- An attempt tells conflicts from all other failures. -/
def Verdict.Fair : Verdict α → Prop
  | .failed e => e.isConflict = false
  | .conflict e => e.isConflict
  | _ => True

theorem attempt_fair (session : Session) (work : Transaction → Sys σ κ (Outcome α × Transaction))
    (sys : System σ κ) : (attempt session work sys).1.1.Fair := by
  obtain ⟨ending, afterwards, after, -, judged⟩ := attempt_attempted session work sys
  generalize (attempt session work sys).1.1 = verdict at judged
  cases judged with
  | done value => trivial
  | conflict e isConflict => exact isConflict
  | failed e noConflict left => exact noConflict
  | panicked => trivial

theorem settle_clock (t : Transaction) (outcome : Outcome α) (env : Env σ) :
    (settle t outcome env).2.clock = env.clock := by
  cases outcome with
  | panic => rfl
  | error e =>
    by_cases conflict : e.isConflict
    · simp only [settle, if_pos conflict]
      rfl
    · simp only [settle, if_neg conflict]
      exact abandon_clock t e env
  | ok value =>
    rcases committed : t.commit env with ⟨⟨reply, after⟩, final⟩
    rw [settle_ok committed]
    exact (congrArg (·.2.clock) committed).symm.trans (commit_clock t env)

/-- The work of an attempt has costs of its own only, and the rest of the attempt has none. -/
theorem attempt_spends (session : Session)
    {work : Transaction → Sys σ (Receipts κ α) (Outcome α × Transaction)}
    (runs : ∀ t, (work t).Spends x fun _ => Free) :
    (attempt session work).Spends x fun r own sleeps => r.1.Fair ∧ Free own sleeps := by
  have free : (attempt session work).Spends x fun _ => Free := by
    unfold attempt
    split
    · exact .pure _ ⟨rfl, rfl⟩
    · split
      · exact .pure _ ⟨rfl, rfl⟩
      next t _ =>
        apply Sys.Spends.freely (runs t)
        rintro ⟨outcome, t⟩
        apply Sys.Spends.freely (.act fun env => congrArg _ (settle_clock t outcome env))
        exact fun _ => .pure _ ⟨rfl, rfl⟩
  intro sys
  obtain ⟨own, sleeps, spent, nothing⟩ := free sys
  exact ⟨own, sleeps, spent, attempt_fair session work sys, nothing⟩

/-- What the attempts of a run that has `remaining` of them left count. They are one more than
its sleeps, as long as it has numbers for them. -/
def Ran (remaining : Nat) (outcome : Outcome α) (own : ExecutorStats) (sleeps : Nat) : Prop :=
  own = ⟨0, min (sleeps + 1) remaining, sleeps, outcome.isConflict.toNat⟩

theorem Ran.last (remaining : Nat) {outcome : Outcome α} {n : Nat}
    (conflicts : outcome.isConflict.toNat = n) :
    Ran (remaining + 1) outcome (⟨0, 1, 0, 0⟩ + ⟨0, 0, 0, n⟩) 0 := by
  simp [Ran, ExecutorStats.add_eq, conflicts]

theorem Ran.next {remaining : Nat} {outcome : Outcome α} {own : ExecutorStats} {sleeps : Nat}
    (ran : Ran remaining outcome own sleeps) :
    Ran (remaining + 1) outcome (⟨0, 1, 0, 0⟩ + (⟨0, 0, 1, 0⟩ + own)) (1 + sleeps) := by
  subst ran
  simp only [Ran, ExecutorStats.add_eq, ExecutorStats.mk.injEq, true_and]
  omega

theorem attempts_spends (config : RetryConfig) {work : Work σ (Receipts κ α) α}
    (runs : ∀ number t, (work number t).Spends x fun _ => Free) (remaining : Nat) :
    ∀ (state : RetryState) (session : Session),
      (attempts x config work remaining state session).Spends x fun r => Ran remaining r.1 := by
  induction remaining with
  | zero => exact fun _ _ => .pure _ rfl
  | succ remaining ih =>
    intro state session
    apply Sys.Spends.bind (.count ⟨0, 1, 0, 0⟩ fun _ => rfl)
    rintro _ _ _ ⟨rfl, rfl⟩
    apply Sys.Spends.bind (attempt_spends session (runs _))
    rintro ⟨verdict, session⟩ _ _ ⟨fair, rfl, rfl⟩
    simp only [zero_add]
    cases verdict with
    | done value =>
      apply Sys.Spends.freely (touch_spends session)
      exact fun session => .pure _ (.last remaining rfl)
    | failed e => exact .pure _ (.last remaining (congrArg Bool.toNat fair))
    | panicked => exact .pure _ (.last remaining rfl)
    | conflict e =>
      apply Sys.Spends.bind (delayUntilRetry_spends config e _)
      intro after own sleeps spends
      cases after with
      | giveUp =>
        obtain ⟨rfl, rfl⟩ := spends
        exact .pure _ (.last remaining (congrArg Bool.toNat fair))
      | panic =>
        obtain ⟨rfl, rfl⟩ := spends
        exact .pure _ (.last remaining rfl)
      | retry state =>
        obtain ⟨rfl, rfl⟩ := spends
        exact (ih state session).mono fun _ _ _ => .next

/-- Between two moments, the call of an executor was made that is let in or not, and it accounts for
all that was spent. -/
def Billed (x : Nat) (admitted : Bool) (outcome : Outcome α)
    (before after : System σ (Receipts κ α)) : Prop :=
  ∃ sleeps, Spent x (Receipt.tally ⟨x, admitted, outcome, sleeps⟩) sleeps before after

theorem runWithTimeout_spent (thread : Thread) (session : Session) (timeout : Option Duration)
    {work : Work σ (Receipts κ α) α} (runs : ∀ number t, (work number t).Spends x fun _ => Free)
    (sys : System σ (Receipts κ α)) :
    let ended := runWithTimeout x thread session timeout work sys
    Billed x (sys.admits x thread) ended.1.1 sys ended.2 := by
  intro ended
  cases found : sys.executors[x]? with
  | none =>
    have nothing : ended = ((.panic, session), sys) := by
      simp only [ended, runWithTimeout, found]
    have shut : sys.admits x thread = false := by
      simp only [System.admits, found, Option.any_none]
    rw [nothing, shut]
    exact ⟨0, .of_same rfl rfl rfl⟩
  | some executor =>
    by_cases busy : thread ∈ executor.running
    · have refused : ended = ((.error .nestedTransaction, session), sys) := by
        simp only [ended, runWithTimeout, found, if_pos busy]
      have shut : sys.admits x thread = false := by
        simp [System.admits, found, busy]
      rw [refused, shut]
      exact ⟨0, .of_same rfl rfl rfl⟩
    · have opens : sys.admits x thread = true := by
        simp [System.admits, found, busy]
      have spends : Sys.Spends x
          (do
            enter x thread
            Sys.count x countInvocation
            let now ← Sys.act Act.now
            let ended ← attempts x executor.config work attemptLimit (.entered now timeout) session
            leave x thread
            pure ended)
          fun r own sleeps => own = Receipt.tally ⟨x, true, r.1, sleeps⟩ := by
        apply Sys.Spends.freely (enter_spends thread)
        intro _
        apply Sys.Spends.bind (.count ⟨1, 0, 0, 0⟩ fun _ => rfl)
        rintro _ _ _ ⟨rfl, rfl⟩
        apply Sys.Spends.freely now_spends
        intro now
        apply Sys.Spends.bind (attempts_spends executor.config runs attemptLimit _ session)
        rintro ⟨outcome, session⟩ _ sleeps rfl
        apply Sys.Spends.freely (leave_spends thread)
        intro _
        refine .pure _ ?_
        simp [Receipt.tally, ExecutorStats.add_eq, ExecutorStats.zero_eq, Nat.add_comm]
      obtain ⟨_, sleeps, spent, rfl⟩ := spends sys
      simp only [ended, runWithTimeout, found, if_neg busy]
      rw [opens]
      exact ⟨sleeps, spent⟩

end Executor

theorem Sys.executors_onPool (pool : Nat) (work : Pool → Act σ (Except Failure β × Pool))
    (sys : System σ κ) : (Sys.onPool pool work sys).2.executors = sys.executors := by
  unfold Sys.onPool
  split <;> rfl

theorem Act.InStep.sleeps_eq {work : Act σ β}
    (inStep : ∀ sleeps, work.InStep (fun clock s t => s = t ∧ clock.sleeps = sleeps) work Eq)
    (env : Env σ) : (work env).2.clock.sleeps = env.clock.sleeps := by
  obtain ⟨-, -, -, awake⟩ := inStep env.clock.sleeps env env ⟨rfl, rfl, rfl⟩
  exact awake

/-- Nothing is spent on work of a pool that does not sleep. -/
theorem Sys.Spends.onPool {x : Nat} (pool : Nat) {work : Pool → Act σ (Except Failure β × Pool)}
    (awake : ∀ pool env, (work pool env).2.clock.sleeps = env.clock.sleeps) :
    Sys.Spends x (Sys.onPool pool work : Sys σ (Receipts κ α) (Outcome β)) fun _ => Free := by
  intro sys
  refine ⟨0, 0, ?_, rfl, rfl⟩
  unfold Sys.onPool
  split
  · exact .of_same rfl rfl rfl
  next found _ => exact .of_same rfl rfl (awake found sys.env)

section
variable [Service σ]

/-- Services that tell the same keep to the sleeps of a clock, since no pool sleeps on it. -/
theorem TellsAlike.of_sleeps (sleeps : List Duration) :
    TellsAlike (σ := σ) fun clock s t => s = t ∧ clock.sleeps = sleeps :=
  .of_invariant (fun awake _ _ => awake) fun {clock _} awake d =>
    (Clock.sleeps_wait clock d).trans awake

theorem get_spends {x : Nat} (pool : Nat) :
    Sys.Spends x (Sys.onPool pool (·.get none) : Sys σ (Receipts κ α) (Outcome Session))
      fun _ => Free :=
  .onPool pool fun pool => Act.InStep.sleeps_eq fun _ => pool.get_inStep (.of_sleeps _) none

theorem giveBack_spends {x : Nat} (pool : Nat) (session : Session) :
    Sys.Spends x (Checkout.giveBack pool session : Sys σ (Receipts κ α) Unit) fun _ => Free := by
  have put : Sys.Spends x
      (Sys.onPool pool (·.put session) : Sys σ (Receipts κ α) (Outcome Unit)) fun _ => Free :=
    .onPool pool fun pool => Act.InStep.sleeps_eq fun _ => pool.put_inStep (.of_sleeps _) session
  apply Sys.Spends.freely put
  intro outcome
  split
  · exact Executor.report_spends _
  · exact .pure _ ⟨rfl, rfl⟩

end

namespace Executor
variable [Service σ] {x : Nat} {work : Work σ (Receipts κ α) α}

theorem invoke_billed (thread : Thread) (session : Session) (limit : Option (Option Duration))
    (runs : ∀ number t, (work number t).Spends x fun _ => Free) (sys : System σ (Receipts κ α)) :
    let ended := invoke x thread session limit work sys
    Billed x (sys.admits x thread) ended.1.1 sys ended.2 := by
  obtain ⟨timeout, same⟩ := invoke_eq x thread session limit work sys
  rw [same]
  exact runWithTimeout_spent thread session timeout runs sys

theorem runPooled_billed (thread : Thread) (pool : Nat)
    (runs : ∀ number t, (work number t).Spends x fun _ => Free) (sys : System σ (Receipts κ α)) :
    let ended := runPooled x thread pool work sys
    Billed x (sys.admits x thread && sys.supplies pool) ended.1 sys ended.2 := by
  intro ended
  obtain ⟨_, _, taken, rfl, rfl⟩ := get_spends pool (x := x) sys
  have executors := Sys.executors_onPool pool (·.get none) sys
  rcases got : Sys.onPool pool (·.get none) sys with ⟨outcome, mid⟩
  rw [got] at taken executors
  simp only [ended, runPooled, Checkout.scope, System.supplies, bind, StateT.bind, got]
  cases outcome with
  | error e =>
    rw [Bool.and_false]
    exact ⟨0, taken⟩
  | panic =>
    rw [Bool.and_false]
    exact ⟨0, taken⟩
  | ok session =>
    have sameAdmits : mid.admits x thread = sys.admits x thread := by
      rw [System.admits, executors, System.admits]
    obtain ⟨sleeps, made⟩ := invoke_billed thread session none runs mid
    obtain ⟨_, _, returned, rfl, rfl⟩ :=
      giveBack_spends pool (invoke x thread session none work mid).1.2 (x := x)
        (invoke x thread session none work mid).2
    rw [Bool.and_true, ← sameAdmits]
    have spent := (taken.trans made).trans returned
    rw [zero_add, zero_add, add_zero, add_zero] at spent
    exact ⟨sleeps, spent⟩

end Executor

/-- What happens between two moments of the same depth: the executors count the receipts that are
filed meanwhile, and nothing else. -/
structure Filed (before after : System σ (Receipts κ α)) : Prop where
  tallied : Tallied 0 before after
  elsewhere : after.own.elsewhere = before.own.elsewhere

theorem Filed.trans {before mid after : System σ (Receipts κ α)} (first : Filed before mid)
    (second : Filed mid after) : Filed before after := by
  constructor
  · rw [← add_zero (0 : Nat → ExecutorStats)]
    exact first.tallied.trans second.tallied
  · exact second.elsewhere.trans first.elsewhere

namespace Errand

/-- A callback costs its call nothing, whatever other calls are made in it. -/
theorem apart_spends {x : Nat} {run : Sys σ (Receipts κ α) β}
    (files : ∀ sys, Filed sys (run sys).2) : (apart run).Spends x fun _ => Free := by
  intro sys
  obtain ⟨tallied, elsewhere⟩ := files sys
  refine ⟨0, 0, ⟨?_, ?_⟩, rfl, rfl⟩
  · rw [Pi.single_zero]
    exact tallied
  · show (run sys).2.slept - ((run sys).2.own.elsewhere + ((run sys).2.slept - sys.slept)) = _
    rw [elsewhere]
    omega

/-- The receipt of a call is for just what the call spent. -/
theorem receive_filed {x : Nat} {admits : System σ (Receipts κ α) → Bool}
    (ending : β → Outcome α) {call : Sys σ (Receipts κ α) β}
    (billed : ∀ sys, Executor.Billed x (admits sys) (ending (call sys).1) sys (call sys).2)
    (sys : System σ (Receipts κ α)) : Filed sys (receive x admits ending call sys).2 := by
  obtain ⟨sleeps, tallied, slept⟩ := billed (sys.measured 0)
  have begun : (sys.measured 0).own.elsewhere = 0 := rfl
  have measured : ((call (sys.measured 0)).2.slept - (sys.measured 0).slept -
      (call (sys.measured 0)).2.own.elsewhere).toNat = sleeps := by
    omega
  subst measured
  exact ⟨tallied.file, rfl⟩

variable [Service σ]

/-- By induction over what the program does; the callback of a call files the receipts of the calls
in it before the call files its own. -/
theorem perform_files (errand : Errand σ κ α) :
    ∀ (t : Transaction) (sys : System σ (Receipts κ α)), Filed sys (errand.perform t sys).2 := by
  induction errand with
  | finish outcome => exact fun t sys => ⟨.of_same rfl rfl, rfl⟩
  | work act keeps next ih =>
    intro t sys
    have worked : Filed sys (Errand.act (act t) sys).2 := ⟨.of_same rfl (keeps t sys.bare), rfl⟩
    exact worked.trans (ih _ _ _)
  | call x thread limit session callback next ihCallback ihNext =>
    intro t sys
    have billed := Executor.invoke_billed (x := x) thread session limit fun number t =>
      apart_spends (ihCallback number t)
    exact (receive_filed _ billed sys).trans (ihNext _ _ _ _)
  | pooled x thread pool callback next ihCallback ihNext =>
    intro t sys
    have billed := Executor.runPooled_billed (x := x) thread pool fun number t =>
      apart_spends (ihCallback number t)
    exact (receive_filed id billed sys).trans (ihNext _ _ _)

end Errand

/-- What the counts of an executor say of the calls on it. -/
structure ExecutorStats.Balanced (stats : ExecutorStats) (calls : List (Receipt α)) : Prop where
  invocations : stats.invocations = calls.countP (·.admitted)
  /-- A call that has slept as often as it can count its attempts has no number for the next. -/
  attempts : (∀ call ∈ calls, call.sleeps < Executor.attemptLimit) →
    stats.attempts = stats.invocations + stats.retries
  retries : stats.retries = (calls.map (·.sleeps)).sum
  deadlineExceeded : stats.deadlineExceeded =
    calls.countP fun call => call.admitted && call.outcome.isConflict

theorem ExecutorStats.balanced_sum (calls : List (Receipt α)) :
    (calls.map Receipt.tally).sum.Balanced calls := by
  induction calls with
  | nil => exact ⟨rfl, fun _ => rfl, rfl, rfl⟩
  | cons call calls ih =>
    obtain ⟨invocations, attempts, retries, deadlineExceeded⟩ := ih
    rw [List.map_cons, List.sum_cons, add_eq]
    constructor
    · rw [List.countP_cons]
      cases admitted : call.admitted <;>
        simp [Receipt.tally, admitted, invocations, Nat.add_comm]
    · intro numbered
      obtain ⟨short, rest⟩ := List.forall_mem_cons.1 numbered
      have admitted : call.admitted.toNat ≤ 1 := Bool.toNat_le call.admitted
      have first : min (call.admitted.toNat + call.sleeps) Executor.attemptLimit =
          call.admitted.toNat + call.sleeps := Nat.min_eq_left (by omega)
      have later := attempts rest
      simp only [Receipt.tally, first]
      omega
    · rw [retries, List.map_cons, List.sum_cons]
      rfl
    · rw [List.countP_cons]
      cases returned : call.admitted && call.outcome.isConflict <;>
        simp [Receipt.tally, returned, deadlineExceeded, Nat.add_comm]

namespace Errand
variable [Service σ]

/-- Whatever a program does with executors that are new, each has counted just the calls on it when
no call is active any more: those that were let in, an attempt for each of them and one for each of
their sleeps, and those that ended in a conflict. -/
theorem perform_balances (errand : Errand σ κ α) (t : Transaction) (sys : System σ (Receipts κ α))
    (unused : ∀ executor ∈ sys.executors, executor.stats = .zero) (unfiled : sys.own.calls = [])
    (x : Nat) {executor : Executor}
    (found : (errand.perform t sys).2.executors[x]? = some executor) :
    executor.stats.Balanced ((errand.perform t sys).2.own.calls.filter (·.executor = x)) := by
  obtain ⟨⟨calls, filed, counted⟩, -⟩ := errand.perform_files t sys
  have summed := counted x
  rw [System.counted, found, System.counted, Option.map_some, Option.map_map] at summed
  obtain ⟨before, foundBefore, stats⟩ := Option.map_eq_some_iff.1 summed.symm
  have zero : before.stats = 0 := unused before (List.mem_of_getElem? foundBefore)
  rw [Function.comp_apply, zero, Pi.zero_apply, zero_add, zero_add] at stats
  rw [filed, unfiled, List.nil_append, ← stats]
  exact ExecutorStats.balanced_sum _

/-- An executor, a service with a session, a pool with another, and a pool that is not bound. -/
def supplied : System Fleet (Receipts Unit Unit) :=
  let config := { RetryConfig.standard with jitter := false }
  let sys := Executor.besieged config (.startingAt .earliest) []
  let stocked := { FixedPool.ofSize 1 with stored := [.existing ⟨"session-1"⟩ 0 .empty .earliest] }
  { sys with pools := [.fixed stocked, .bursty (.ofSize 1)] }.filing ⟨(), [], 0⟩

/-- A conflict with a hint of so many seconds. -/
def conflicting (seconds : Nat) : Errand Fleet Unit Unit :=
  .finish (.error (.aborted "busy" (some ⟨seconds, 0⟩)))

/-- A call that is made once more after one on its own executor was refused in its callback, and
then runs out of time; calls that panic, in the callback and over a hint that is too long; and
calls on sessions of both pools. -/
def assorted : Errand Fleet Unit Unit :=
  let session := Session.existing ⟨"session-1"⟩ 0 .empty .earliest
  let nested : Errand Fleet Unit Unit :=
    .call 0 0 none session (fun _ => .finish (.ok ())) fun _ _ => conflicting 3
  .call 0 0 (some (some (.ofSeconds 10))) session
    (fun attempt => if attempt = 1 then nested else conflicting 30) fun _ _ =>
  .call 0 0 none session (fun _ => .finish .panic) fun _ _ =>
  .call 0 0 none session (fun _ => conflicting (maxWord + 1)) fun _ _ =>
  .pooled 0 0 0 (fun _ => .finish (.ok ())) fun _ =>
  .pooled 0 0 1 (fun _ => .finish (.ok ())) .finish

/-- Of six calls, four were let in, one of them slept and then ended in its conflict. -/
theorem perform_balances_of_assorted :
    let ended := (assorted.perform (.fresh ⟨"session-1"⟩ 0) supplied).2
    (∀ executor ∈ supplied.executors, executor.stats = .zero) ∧ supplied.own.calls = [] ∧
    ended.own.calls.length = 6 ∧
    ∃ executor, ended.executors[0]? = some executor ∧ executor.stats = ⟨4, 5, 1, 1⟩ ∧
      executor.stats.Balanced (ended.own.calls.filter (·.executor = 0)) := by
  intro ended
  have unused : ∀ executor ∈ supplied.executors, executor.stats = .zero := by decide
  have unfiled : supplied.own.calls = [] := rfl
  have filed : ended.own.calls.length = 6 := by decide +kernel
  have counted : ended.counted 0 = some ⟨4, 5, 1, 1⟩ := by decide +kernel
  rw [System.counted, Option.map_eq_some_iff] at counted
  obtain ⟨executor, found, stats⟩ := counted
  refine ⟨unused, unfiled, filed, executor, found, stats, ?_⟩
  simp only [ended]
  exact perform_balances assorted _ supplied unused unfiled 0 found

end Errand
end SessionPooling
