import SessionPooling.Config.Retry
import SessionPooling.Outcome
import SessionPooling.Pool.Basic

/-! A system at work: the outside, the pools, the executors, and whatever the program that
uses them keeps for itself. -/
namespace SessionPooling

abbrev Thread := Nat

/-- Counts of what an executor did. They are numbers without bound, where counters of fixed width
would wrap around. -/
structure ExecutorStats where
  /-- Runs that were not refused for being nested. -/
  invocations : Nat
  /-- Attempts started, first attempts included. -/
  attempts : Nat
  /-- Conflicts that were followed by another attempt. -/
  retries : Nat
  /-- Conflicts that were handed back because time ran out. -/
  deadlineExceeded : Nat
deriving DecidableEq

namespace ExecutorStats

def zero : ExecutorStats := ⟨0, 0, 0, 0⟩

def diagnostic (stats : ExecutorStats) : String :=
  Text.record "ExecutorStats"
    [("invocations", Nat.repr stats.invocations), ("attempts", Nat.repr stats.attempts),
      ("retries", Nat.repr stats.retries),
      ("deadline_exceeded", Nat.repr stats.deadlineExceeded)]

end ExecutorStats

structure Executor where
  config : RetryConfig
  running : List Thread
  stats : ExecutorStats
deriving DecidableEq

namespace Executor

def idle (config : RetryConfig) : Executor := ⟨config, [], .zero⟩

end Executor

structure System (σ κ : Type) where
  env : Env σ
  pools : List Pool
  executors : List Executor
  /-- What the program keeps for itself. The library passes it on untouched. -/
  own : κ

abbrev Sys (σ κ : Type) := StateM (System σ κ)

namespace Sys
variable {σ κ : Type}

/-- Does work that only concerns the outside. -/
def act (work : Act σ α) : Sys σ κ α := fun sys =>
  let (a, env) := work sys.env
  (a, { sys with env })

/-- Does work on one pool. There is nothing to do it on if there is no such pool. -/
def onPool (i : Nat) (work : Pool → Act σ (Except Failure α × Pool)) : Sys σ κ (Outcome α) :=
  fun sys =>
    match sys.pools[i]? with
    | none => (.panic, sys)
    | some pool =>
      let ((result, pool), env) := work pool sys.env
      (.ofExcept result, { sys with env, pools := sys.pools.set i pool })

def count (x : Nat) (change : ExecutorStats → ExecutorStats) : Sys σ κ Unit := fun sys =>
  ((), { sys with
    executors := sys.executors.modify x fun e => { e with stats := change e.stats } })

end Sys
end SessionPooling
