import SessionPooling.Scenario.Play

/-! Whole scenarios: what there is at the start, the steps, and a report after each. -/
namespace SessionPooling

structure Scenario where
  /-- The time at the start. Without one, the clock runs. -/
  start : Option Instant
  backends : List FaultyBackend
  pools : List Scenario.PoolPlan
  executors : List RetryConfig
  steps : List Scenario.Step

namespace Scenario

/-- What is special to a kind of pool at one moment. -/
inductive PoolDetail where
  | nextDue (time : Option Instant)
  | pending (count : Nat)

structure PoolView where
  available : Nat
  checkedOut : Nat
  detail : Option PoolDetail

namespace PoolView

def detailOf? : Pool → Option PoolDetail
  | .pinging pool => some (.nextDue pool.queue.nextDue?)
  | .transactionPinging pool => some (.pending pool.pending.length)
  | _ => none

def ofPool (plan : PoolPlan) (pool : Pool) : PoolView where
  available := pool.stats.available
  checkedOut := pool.stats.checkedOut
  detail := if plan.showsKind then detailOf? pool else none

end PoolView

/-- A service at one moment: how many requests of each kind it received, and how many of
its sessions exist. -/
structure BackendView where
  calls : List Nat
  live : Nat

def BackendView.ofMemory (memory : MemoryBackend) : BackendView :=
  ⟨RequestKind.all.map memory.callsOf, memory.live.length⟩

structure Snapshot where
  now : Instant
  pools : List PoolView
  backends : List BackendView

def Snapshot.ofSystem (sys : System Fleet Stage) : Snapshot where
  now := sys.env.clock.now
  pools := List.zipWith PoolView.ofPool sys.own.plans sys.pools
  backends := sys.env.service.backends.map fun backend => .ofMemory backend.inner

/-- What one step showed and reported, and how things stand after it. -/
structure StepReport where
  answer : Answer
  after : Snapshot
  log : List LogEntry

def reportStep (step : Step) : Play StepReport := fun sys =>
  let ((answer, signal), after) := playStep { sys with env := { sys.env with log := [] } }
  (⟨answer.getD signal.answer, .ofSystem after, after.env.log.reverse⟩, after)
where
  playStep : Play (Option Answer × Signal) := do
    Play.wait Play.pause
    step.play

def reportSteps : List Step → Play (List StepReport)
  | [] => pure []
  | step :: rest => do
    let report ← reportStep step
    let reports ← reportSteps rest
    pure (report :: reports)

/-- Makes pools one after another, up to the first that cannot be made. -/
def buildAll : List PoolPlan → Outcome (List Pool)
  | [] => .ok []
  | plan :: rest =>
    match plan.build with
    | .ok pool => (buildAll rest).map (pool :: ·)
    | .error e => .error e
    | .panic => .panic

def opening (scenario : Scenario) (pools : List Pool) : System Fleet Stage where
  env :=
    { clock := scenario.start.elim .running .startingAt
      service := .ofBackends scenario.backends
      log := [] }
  pools
  executors := scenario.executors.map Executor.idle
  own :=
    { plans := scenario.pools
      sessions := []
      transactions := []
      held := none
      given := none
      transcript := [] }

/-- A scenario as it went: what making the pools reported, and a report for each step. -/
structure Account where
  opening : List LogEntry
  steps : List StepReport

def play (scenario : Scenario) : Outcome Account :=
  (buildAll scenario.pools).map fun pools =>
    ⟨scenario.pools.flatMap PoolPlan.notices,
      (reportSteps scenario.steps (scenario.opening pools)).1⟩

end Scenario
end SessionPooling
