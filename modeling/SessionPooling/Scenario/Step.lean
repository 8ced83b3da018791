import SessionPooling.Backend.Fleet
import SessionPooling.Retry.Executor

/-! The steps of a scenario. A step is one use of the library, or something that befalls it
from outside. Pools, executors and services are named by their places in the scenario,
sessions and transactions by the slots in which they are kept. -/
namespace SessionPooling.Scenario

inductive ClockStep where
  | advance (d : Duration)
  | set (time : Instant)
  | sleeps

inductive PoolStep where
  | bind (backend : BackendId)
  | get (slot : String) (timeout : Option Duration)
  /-- Empties the slot, whether or not the pool takes the session. -/
  | put (slot : String)
  | clear
  | ping
  | pingAllDue
  | beginPending
  | stats
  | limits
  /-- Another thread takes a session. It waits for the one that is put back here a little
  later. -/
  | handOver (give take : String) (timeout : Option Duration)
  /-- A background pinger runs for so many rounds and is stopped. -/
  | pinger (interval : Duration) (rounds : Nat)

/-- The name that stands for the session of a checkout while its body is played. -/
def heldName : String := "@"

inductive SessionStep where
  | unborn (backend : BackendId) (template : Template)
  | existing (id : SessionId) (backend : BackendId) (template : Template)
  | drop
  | inspect
  | diagnostic
  | create
  | ping
  | delete
  | probe
  | touch
  | setInUse (inUse : Bool)
  | newTransaction
  | takeTransaction (slot : String)

inductive TransactionPlace where
  | onSession (slot : String)
  | alone (slot : String)
  /-- With the attempt that is going on. -/
  | given

inductive TransactionStep where
  | begin
  | buffer (mutation : Mutation)
  | commit
  | rollback
  | inspect
  | diagnostic

inductive BackendStep where
  | expire (id : SessionId)
  | expireAll
  | failCommits (failure : ArrangedFailure) (times : Nat)
  | failPings (failure : ArrangedFailure) (times : Nat)
  | arrange (kind : RequestKind) (fault : Option Failure) (times : Nat)
  | setSurplus (count : Nat)
  | isLive (id : SessionId)
  | templateOf (id : SessionId)
  | committed
  | callsTotal
  | role
  | request (request : Request)

inductive ExecutorStep where
  | stats
  | config
  | diagnostic
  /-- Another thread runs work that does nothing. -/
  | runElsewhere (slot : String)

inductive Step where
  | clock (step : ClockStep)
  | pool (pool : Nat) (step : PoolStep)
  | session (slot : String) (step : SessionStep)
  | slots
  /-- A failure of a decisive step is also the failure of the work that it is part of. -/
  | transaction (place : TransactionPlace) (step : TransactionStep) (decisive : Bool)
  | backend (backend : BackendId) (step : BackendStep)
  | executor (executor : Nat) (step : ExecutorStep)
  | fail (failure : Failure)
  | panic
  /-- Does the steps of the body while a session is checked out, and shows the diagnostic
  text of the checkout if that is wanted. -/
  | checkout (pool : Nat) (timeout : Option Duration) (diagnosed : Bool) (body : List Step)
  /-- Runs work in transactions on the session of a slot. Each attempt does its own steps;
  attempts past the last list do none. A limit, if there is one, goes before the one of
  the executor. -/
  | run (executor : Nat) (slot : String) (limit : Option (Option Duration))
    (script : List (List Step))
  | runPooled (executor pool : Nat) (script : List (List Step))

end SessionPooling.Scenario
