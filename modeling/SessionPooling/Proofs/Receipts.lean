import SessionPooling.Proofs.CallTree

/-! Calls of executors as errands of a program, on any threads and inside each other. Each call
gives a receipt when it has ended, however that came about: whether it was let in, what it ended
in, and how often it slept. -/
namespace SessionPooling
variable {σ κ α β : Type}

/-- What is known of a call of an executor once it has ended. -/
structure Receipt (α : Type) where
  executor : Nat
  /-- Whether the call got past the guard against nested calls. -/
  admitted : Bool
  outcome : Outcome α
  /-- The sleeps on the clock during the call, those in its callback left out. -/
  sleeps : Nat

/-- What a program keeps for itself, and the receipts of its calls. -/
structure Receipts (κ α : Type) where
  own : κ
  calls : List (Receipt α)
  /-- How many sleeps the clock has gained in the callback of the innermost active call. -/
  elsewhere : Int

namespace System

/-- A system without the receipts. -/
def bare (sys : System σ (Receipts κ α)) : System σ κ :=
  ⟨sys.env, sys.pools, sys.executors, sys.own.own⟩

def filing (sys : System σ κ) (receipts : Receipts κ α) : System σ (Receipts κ α) :=
  ⟨sys.env, sys.pools, sys.executors, { receipts with own := sys.own }⟩

def file (sys : System σ (Receipts κ α)) (receipt : Receipt α) : System σ (Receipts κ α) :=
  { sys with own := { sys.own with calls := sys.own.calls ++ [receipt] } }

def measured (sys : System σ (Receipts κ α)) (elsewhere : Int) : System σ (Receipts κ α) :=
  { sys with own := { sys.own with elsewhere } }

/-- The number of sleeps of the clock so far. -/
def slept (sys : System σ κ) : Int := sys.env.clock.sleeps.length

/-- Whether an executor lets a thread in. -/
def admits (sys : System σ κ) (x : Nat) (thread : Thread) : Bool :=
  sys.executors[x]?.any fun executor => decide (thread ∉ executor.running)

/-- Whether a pool has a session to hand out. -/
def supplies [Service σ] (sys : System σ κ) (pool : Nat) : Bool :=
  match (Sys.onPool pool (·.get none) sys).1 with
  | .ok _ => true
  | _ => false

end System

/-- What a program does, in the callback of a call or outside of all calls. -/
inductive Errand (σ κ α : Type) where
  | finish (outcome : Outcome α)
  /-- Anything that leaves the executors alone, with the transaction of the innermost active call
  at hand. -/
  | work (act : Transaction → System σ κ → Transaction × System σ κ)
      (keeps : ∀ t sys, (act t sys).2.executors = sys.executors) (next : κ → Errand σ κ α)
  /-- A call with the deadline of the settings, or with one of its own. -/
  | call (executor : Nat) (thread : Thread) (limit : Option (Option Duration)) (session : Session)
      (callback : Nat → Errand σ κ α) (next : Outcome α → Session → Errand σ κ α)
  /-- A call on a session of a pool. -/
  | pooled (executor : Nat) (thread : Thread) (pool : Nat) (callback : Nat → Errand σ κ α)
      (next : Outcome α → Errand σ κ α)

namespace Errand

def act (work : System σ κ → β × System σ κ) : Sys σ (Receipts κ α) (β × κ) := fun sys =>
  let (b, after) := work sys.bare
  ((b, after.own), after.filing sys.own)

/-- A run of a callback. Its sleeps are not those of the call. -/
def apart (run : Sys σ (Receipts κ α) β) : Sys σ (Receipts κ α) β := fun sys =>
  let (b, after) := run sys
  (b, after.measured (after.own.elsewhere + (after.slept - sys.slept)))

/-- Makes a call, and files the receipt when it has ended. -/
def receive (x : Nat) (admits : System σ (Receipts κ α) → Bool) (ending : β → Outcome α)
    (call : Sys σ (Receipts κ α) β) : Sys σ (Receipts κ α) β := fun sys =>
  let begun := sys.measured 0
  let (b, after) := call begun
  let sleeps := (after.slept - begun.slept - after.own.elsewhere).toNat
  (b, (after.file ⟨x, admits begun, ending b, sleeps⟩).measured sys.own.elsewhere)

variable [Service σ]

/-- Goes on below the calls that are active. Outside of all calls, the transaction at hand is one
that no call knows of. -/
def perform : Errand σ κ α → Transaction → Sys σ (Receipts κ α) (Outcome α × Transaction)
  | finish outcome, t => pure (outcome, t)
  | work act _ next, t => do
    let (t, own) ← Errand.act (act t)
    (next own).perform t
  | call x thread limit session callback next, t => do
    let (outcome, returned) ← receive x (·.admits x thread) Prod.fst
      (Executor.invoke x thread session limit fun attempt t => apart ((callback attempt).perform t))
    (next outcome returned).perform t
  | pooled x thread pool callback next, t => do
    let outcome ← receive x (fun sys => sys.admits x thread && sys.supplies pool) id
      (Executor.runPooled x thread pool fun attempt t => apart ((callback attempt).perform t))
    (next outcome).perform t

end Errand
end SessionPooling
