import SessionPooling.Scenario.Stage
import SessionPooling.Scenario.Step

/-! What the steps about pools do. A pool puts sessions into slots and takes them out of
slots, so that no session is in two places. -/
namespace SessionPooling.Scenario

namespace Play

def put (pool : Nat) (slot : String) : Play Answer := do
  match ← takeSession? slot with
  | none => pure .noSession
  | some session => do
    let outcome ← Sys.onPool pool (·.put session)
    pure (.ofOutcome (fun _ => .nothing) outcome)

def keep (slot : String) (outcome : Outcome Session) : Play Answer := do
  match outcome with
  | .ok session => onSessions (·.hold slot session)
  | _ => pure ()
  pure (.ofOutcome .taken outcome)

def get (pool : Nat) (slot : String) (timeout : Option Duration) : Play Answer := do
  keep slot (← Sys.onPool pool (·.get timeout))

/-- Takes a session from a pool after the waiting is over. -/
def take (pool : Nat) (slot : String) (timeout : Option Duration) : Play Answer := do
  keep slot (← Sys.onPool pool (·.take timeout))

/-- How long the caller of a hand-over has been waiting when the session comes back. -/
def handOverDelay : Duration := .ofMillis 15

def waitingTime (pool : Nat) (timeout : Option Duration) : Play Duration := do
  pure ((← pool? pool).elim .zero (·.waitingTime timeout))

/-- Takes a session in another thread, and puts one back here after a while: before the other
thread has it if that one still waits then, and afterwards if not. -/
def handOver (pool : Nat) (give slot : String) (timeout : Option Duration) : Play Answer := do
  let taking := unreported (take pool slot timeout)
  let patience ← waitingTime pool timeout
  if handOverDelay ≤ patience then do
    wait handOverDelay
    let given ← put pool give
    wait ((← waitingTime pool timeout) - handOverDelay)
    let taken ← taking
    pure (.handedOver given taken)
  else do
    wait patience
    let taken ← taking
    wait (handOverDelay - patience)
    let given ← put pool give
    pure (.handedOver given taken)

def pingerTarget : String := "spool::pinger"

def pinger (pool : Nat) (interval : Duration) (rounds : Nat) : Play Answer := do
  Sys.act (Act.report
    ⟨.info, pingerTarget, "Pinger started", [("interval", .text interval.text)]⟩)
  let outcome ← Sys.onPool pool fun pool => do
    let pool ← Act.unreported (pool.pingInRounds interval rounds)
    pure (.ok (), pool)
  Sys.act (Act.report ⟨.info, pingerTarget, "Pinger stopped", []⟩)
  pure (.ofOutcome (fun _ => .pinged (decide (rounds = 0))) outcome)

def onPool (pool : Nat) (write : α → Answer)
    (work : Pool → Act Fleet (Except Failure α × Pool)) : Play Answer := do
  pure (.ofOutcome write (← Sys.onPool pool work))

/-- The bounds of a pool, if the way in which it was made lets them show. -/
def limits (pool : Nat) : Play Answer := do
  let shows := (← stage).plans[pool]?.any PoolPlan.showsKind
  let bounds := (← pool? pool).bind PoolLimits.ofPool?
  pure (if shows then .ofOption .limits bounds else .nothing)

end Play

def PoolStep.play (pool : Nat) : PoolStep → Play Answer
  | bind backend => Play.onPool pool (fun _ => .nothing) (·.bind backend)
  | get slot timeout => Play.get pool slot timeout
  | put slot => Play.put pool slot
  | clear => Play.onPool pool (fun _ => .nothing) (·.clear)
  | ping => Play.onPool pool .flag (·.ping)
  | pingAllDue => Play.onPool pool .number (·.pingAllDue)
  | beginPending => Play.onPool pool .number (·.beginPending)
  | stats => do
    pure (.ofOption (fun pool => .stats pool.stats) (← Play.pool? pool))
  | limits => Play.limits pool
  | handOver give take timeout => Play.handOver pool give take timeout
  | pinger interval rounds => Play.pinger pool interval rounds

end SessionPooling.Scenario
