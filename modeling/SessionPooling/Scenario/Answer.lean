import SessionPooling.Backend.Fleet
import SessionPooling.System

/-! What the steps of a scenario show, and what they mean for the work around them. -/
namespace SessionPooling.Scenario

structure PoolLimits where
  size : Nat
  /-- The age or interval after which sessions are checked, where the kind has one. -/
  period : Option Duration

/-- The bounds of a pool. Those of a pool with two queues do not show. -/
def PoolLimits.ofPool? : Pool → Option PoolLimits
  | .fixed pool => some ⟨pool.size, some pool.maxAge⟩
  | .bursty pool => some ⟨pool.targetSize, none⟩
  | .pinging pool => some ⟨pool.size, some pool.pingInterval⟩
  | .transactionPinging _ => none

inductive Answer where
  | nothing
  | flag (value : Bool)
  | number (value : Nat)
  | text (value : String)
  | texts (values : List String)
  | time (value : Instant)
  | sleeps (values : List Duration)
  | template (value : Template)
  | stats (value : PoolStats)
  | limits (value : PoolLimits)
  | executorStats (value : ExecutorStats)
  | executorConfig (value : RetryConfig)
  | writes (values : List (SessionId × List Mutation))
  | session (value : Session)
  | transaction (value : Transaction)
  | taken (value : Session)
  /-- A checkout that ended well, with its diagnostic text if that was wanted. -/
  | returned (id : Option SessionId) (diagnostic : Option String)
  /-- A background pinger that is stopped, and whether it did nothing. -/
  | pinged (idle : Bool)
  | ok (value : Answer)
  | failed (failure : Failure)
  | panicked
  | noSession
  | noTransaction
  | handedOver (given taken : Answer)
  /-- How a checkout ended, and what the steps inside showed. -/
  | checkout (ended : Answer) (body : List Answer)
  /-- How a run ended, what the steps of each attempt showed, and the sleeps meanwhile. -/
  | run (ended : Answer) (attempts : List (List Answer)) (sleeps : List Duration)

namespace Answer

def ofOption (write : α → Answer) : Option α → Answer
  | none => nothing
  | some a => write a

def ofExcept (write : α → Answer) : Except Failure α → Answer
  | .ok a => ok (write a)
  | .error e => failed e

def ofOutcome (write : α → Answer) : Outcome α → Answer
  | .ok a => ok (write a)
  | .error e => failed e
  | .panic => panicked

def ofReply : (request : Request) → request.Reply → Answer
  | .batchCreate .., reply => ofExcept (fun ids => texts (ids.map (·.text))) reply
  | .create _, reply => ofExcept (fun id => text id.text) reply
  | .probe _, reply => ofExcept flag reply
  | .ping _, reply => ofExcept (fun _ => nothing) reply
  | .delete _, reply => ofExcept (fun _ => nothing) reply
  | .begin _, reply => ofExcept (fun id => text id.text) reply
  | .commit .., reply => ofExcept time reply
  | .rollback .., reply => ofExcept (fun _ => nothing) reply

end Answer
/-- What a step means for the work that it is part of. -/
inductive Signal where
  | goOn
  | fail (failure : Failure)
  | panic

namespace Signal

def outcome (value : α) : Signal → Outcome α
  | goOn => .ok value
  | fail e => .error e
  | panic => .panic

def answer : Signal → Answer
  | goOn => .nothing
  | fail e => .failed e
  | panic => .panicked

end Signal

end SessionPooling.Scenario
