import SessionPooling.Scenario.Stage
import SessionPooling.Scenario.Step

/-! What the steps do that have work done: checkouts and runs. The work consists of steps
of its own, for which the session checked out or the transaction of the attempt takes the
place of the one around it. -/
namespace SessionPooling.Scenario

namespace ExecutorStep

def look (executor : Nat) (view : Executor → Play Answer) : Play Answer := do
  match ← Play.executor? executor with
  | none => pure .panicked
  | some executor => view executor

def mainThread : Thread := 0

def otherThread : Thread := 1

def runAside (executor : Nat) (slot : String) : Play Answer := do
  match ← Play.takeSession? slot with
  | none => pure .noSession
  | some session => do
    let (outcome, session) ← Play.unreported
      (Executor.run executor otherThread session fun _ t => pure (.ok "thread", t))
    Play.onSessions (·.hold slot session)
    pure (.ofOutcome .text outcome)

def play (executor : Nat) : ExecutorStep → Play Answer
  | stats => look executor fun executor => pure (.executorStats executor.stats)
  | config => look executor fun executor => pure (.executorConfig executor.config)
  | diagnostic => look executor fun executor => do
    pure (.text (executor.diagnostic (← Play.clock).diagnostic))
  | runElsewhere slot => runAside executor slot

end ExecutorStep

/-- Steps of one piece of work: what they show, and how the last of them ends it. -/
abbrev Part := Play (List Answer × Signal)

/-- Does the steps of a body while a session is checked out. The name shown is the one that the
session had when it was taken, the diagnostic text that of the session after the body. -/
def checkout (pool : Nat) (timeout : Option Duration) (diagnosed : Bool)
    (body : Part) : Play Answer := do
  let (outcome, transcript) ← Play.transcribed (Checkout.scope pool timeout fun taken => do
    let ((answers, signal), session) ← Play.holding taken body
    Play.note answers
    let text := if diagnosed then some (Checkout.diagnostic session) else none
    pure (signal.outcome (taken.id?, text), session))
  pure (.checkout (.ofOutcome (fun r => .returned r.1 r.2) outcome) transcript.flatten)

/-- The work whose attempts do the parts of a script one after another, and then nothing.
Its value is the number of the attempt. -/
def scripted (script : List Part) : Executor.Work Fleet Stage Nat :=
  fun attempt t => do
    let part := script[attempt - 1]?.getD (pure ([], .goOn))
    let ((answers, signal), t) ← Play.giving t part
    Play.note answers
    pure (signal.outcome attempt, t)

def shownRun (work : Play (Outcome Nat)) : Play Answer := do
  let before := (← Play.clock).sleeps.length
  let (outcome, transcript) ← Play.transcribed work
  let sleeps := (← Play.clock).sleeps.drop before
  pure (.run (.ofOutcome .number outcome) transcript sleeps)

/-- Runs a script on the session of a slot, which is empty meanwhile. -/
def runOnSlot (executor : Nat) (slot : String) (limit : Option (Option Duration))
    (script : List Part) : Play Answer := do
  match ← Play.takeSession? slot with
  | none => pure .noSession
  | some session => shownRun do
    let thread := ExecutorStep.mainThread
    let (outcome, session) ←
      match limit with
      | none => Executor.run executor thread session (scripted script)
      | some limit => Executor.runWithTimeout executor thread session limit (scripted script)
    Play.onSessions (·.hold slot session)
    pure outcome

end SessionPooling.Scenario
