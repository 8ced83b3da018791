import SessionPooling.Checkout
import SessionPooling.Retry.Delay
import SessionPooling.Retry.State

/-! Running work in transactions, and again after conflicts. Each attempt attaches a fresh
transaction to the session, gives it to the work, and commits if the work succeeds. After a
conflict, of the work or of the commit, the run waits and tries again until its deadline;
any other failure ends it. A run is marked for its thread while it lasts, and a run inside
a run of the same executor on the same thread is refused. -/
namespace SessionPooling.Executor
variable {σ κ : Type} [Service σ]

def logTarget : String := "spool::executor"

/-- Work to be done in a transaction. It is told the number of the attempt, counted from
one, and may use everything else of the system. -/
abbrev Work (σ κ α : Type) := Nat → Transaction → Sys σ κ (Outcome α × Transaction)

inductive Verdict (α : Type) where
  | done (value : α)
  | conflict (failure : Failure)
  | failed (failure : Failure)
  | panicked

def Verdict.ofFailure (e : Failure) : Verdict α :=
  if e.isConflict then .conflict e else .failed e

/-- Rolls back after work failed for good. A finished transaction is left alone, and a
rollback that fails is reported, since the run has a failure of its own. -/
def abandon (t : Transaction) (cause : Failure) : Act σ Transaction :=
  if t.isFinished then pure t
  else do
    match ← t.rollback with
    | (.ok _, t) => pure t
    | (.error e, t) => do
      Act.report
        ⟨.warn, logTarget, "Rollback failed after callback error",
          [("error", .text e.message), ("cause", .text cause.message)]⟩
      pure t

/-- What follows the work of an attempt, by how it ended. -/
def settle (t : Transaction) : Outcome α → Act σ (Verdict α × Transaction)
  | .panic => pure (.panicked, t)
  | .error e =>
    if e.isConflict then pure (.conflict e, t)
    else do
      let t ← abandon t e
      pure (.failed e, t)
  | .ok value => do
    match ← t.commit with
    | (.ok _, t) => pure (.done value, t)
    | (.error e, t) => pure (.ofFailure e, t)

/-- One attempt: a fresh transaction, the work, and what follows from how it ended. -/
def attempt (session : Session) (work : Transaction → Sys σ κ (Outcome α × Transaction)) :
    Sys σ κ (Verdict α × Session) :=
  match session.newTransaction with
  | .error e => pure (.failed e, session)
  | .ok session =>
    match session.transaction with
    | none => pure (.panicked, session)
    | some t => do
      let (outcome, t) ← work t
      let (verdict, t) ← Sys.act (settle t outcome)
      pure (verdict, { session with transaction := some t })

inductive AfterConflict where
  | retry (state : RetryState)
  | giveUp
  /-- The hint is too long to be a duration. -/
  | panic

def countGivenUp (stats : ExecutorStats) : ExecutorStats :=
  { stats with deadlineExceeded := stats.deadlineExceeded + 1 }

def countRetry (stats : ExecutorStats) : ExecutorStats :=
  { stats with retries := stats.retries + 1 }

def countAttempt (stats : ExecutorStats) : ExecutorStats :=
  { stats with attempts := stats.attempts + 1 }

def countInvocation (stats : ExecutorStats) : ExecutorStats :=
  { stats with invocations := stats.invocations + 1 }

/-- The random part of a delay; a number is drawn only where the settings ask for it. -/
def drawFor (config : RetryConfig) (conflict : Failure) : Act σ Nat :=
  if config.jitter ∧ conflict.hint?.isNone ∧ config.defaultRetryDelayMs.isNone then Act.draw
  else pure 0

def conflictEntry (state : RetryState) (message : String) (fields : List (String × LogValue)) :
    LogEntry :=
  ⟨.debug, logTarget, message, ("attempt", .number state.attempt) :: fields⟩

/-- Waits before the next attempt, unless the deadline is reached or would be passed. -/
def delayUntilRetry (x : Nat) (config : RetryConfig) (conflict : Failure) (state : RetryState) :
    Sys σ κ AfterConflict := do
  let now ← Sys.act Act.now
  if state.expiredAt now then do
    Sys.count x countGivenUp
    Sys.act (Act.report (conflictEntry state "Deadline reached, giving up" []))
    pure .giveUp
  else do
    let drawn ← Sys.act (drawFor config conflict)
    match Retry.delay? config conflict.hint? state.attempt drawn with
    | none => pure .panic
    | some delay =>
      if state.overshoots now delay then do
        Sys.count x countGivenUp
        Sys.act (Act.report
          (conflictEntry state "Retry delay would pass the deadline, giving up"
            [("delay", .text delay.text)]))
        pure .giveUp
      else do
        Sys.act (Act.report
          (conflictEntry state "Transaction aborted, retrying"
            [("delay", .text delay.text), ("error", .text conflict.message)]))
        Sys.count x countRetry
        Sys.act (Act.sleep delay)
        pure (.retry { state with lastDelay := some delay })

/-- The largest number of attempts that a run can count. -/
def attemptLimit : Nat := maxHalfWord

/-- Attempts until one ends the run. A run that has used up the numbers of its attempts
panics. -/
def attempts (x : Nat) (config : RetryConfig) (work : Work σ κ α) :
    (remaining : Nat) → RetryState → Session → Sys σ κ (Outcome α × Session)
  | 0, _, session => pure (.panic, session)
  | remaining + 1, state, session => do
    let state := { state with attempt := state.attempt + 1 }
    Sys.count x countAttempt
    match ← attempt session (work state.attempt) with
    | (.done value, session) => do
      let session ← Sys.act session.touch
      pure (.ok value, session)
    | (.failed e, session) => pure (.error e, session)
    | (.panicked, session) => pure (.panic, session)
    | (.conflict e, session) => do
      match ← delayUntilRetry x config e state with
      | .giveUp => pure (.error e, session)
      | .panic => pure (.panic, session)
      | .retry state => attempts x config work remaining state session

def enter (x : Nat) (thread : Thread) : Sys σ κ Unit := fun sys =>
  ((), { sys with
    executors := sys.executors.modify x fun e => { e with running := thread :: e.running } })

def leave (x : Nat) (thread : Thread) : Sys σ κ Unit := fun sys =>
  ((), { sys with
    executors := sys.executors.modify x fun e => { e with running := e.running.erase thread } })

/-- Runs work on a session until it succeeds, fails for good, or `timeout` has passed. -/
def runWithTimeout (x : Nat) (thread : Thread) (session : Session) (timeout : Option Duration)
    (work : Work σ κ α) : Sys σ κ (Outcome α × Session) := fun sys =>
  match sys.executors[x]? with
  | none => ((.panic, session), sys)
  | some executor =>
    if thread ∈ executor.running then ((.error .nestedTransaction, session), sys)
    else
      let work : Sys σ κ (Outcome α × Session) := do
        enter x thread
        Sys.count x countInvocation
        let now ← Sys.act Act.now
        let ended ← attempts x executor.config work attemptLimit (.entered now timeout) session
        leave x thread
        pure ended
      work sys

def run (x : Nat) (thread : Thread) (session : Session) (work : Work σ κ α) :
    Sys σ κ (Outcome α × Session) := fun sys =>
  let timeout := sys.executors[x]?.bind fun e => e.config.timeout
  runWithTimeout x thread session timeout work sys

/-- Runs work on a session of a pool, which goes back to the pool however the run ends. -/
def runPooled (x : Nat) (thread : Thread) (pool : Nat) (work : Work σ κ α) : Sys σ κ (Outcome α) :=
  Checkout.scope pool none fun session => run x thread session work

def diagnostic (executor : Executor) (clock : String) : String :=
  Text.record "RetryExecutor"
    [("config", executor.config.diagnostic), ("clock", clock),
      ("stats", executor.stats.diagnostic)]

end SessionPooling.Executor
