import SessionPooling.Retry.Executor

/-! Calls of executors made in the callbacks of other calls, written out as what one thread does.
What it does next may depend on every reply that it got and on what the program keeps for itself,
and a callback may do something else in each attempt. Every call goes into a register, with the
calls that were still active further up when it was made. -/
namespace SessionPooling
variable {σ κ α β : Type}

/-- For each executor, the threads with an active call. -/
def System.marks (sys : System σ κ) : List (List Thread) := sys.executors.map (·.running)

/-- The same system, of a program that keeps something else for itself. -/
def System.keeping {κ' : Type} (sys : System σ κ) (own : κ') : System σ κ' :=
  ⟨sys.env, sys.pools, sys.executors, own⟩

/-- A call of an executor, as the thread that made it saw it. -/
structure Call (σ κ α : Type) where
  executor : Nat
  /-- The executors of the calls that were active further up, innermost first. -/
  above : List Nat
  given : Session
  before : System σ κ
  /-- How each run of the callback ended, oldest first. -/
  ends : List (Outcome α)
  outcome : Outcome α
  returned : Session
  after : System σ κ

def Call.failure? (call : Call σ κ α) : Option Failure :=
  match call.outcome with
  | .error e => some e
  | _ => none

theorem Call.outcome_of_failure? (call : Call σ κ α) (failed : call.failure? = some e) :
    call.outcome = .error e := by
  unfold Call.failure? at failed
  split at failed
  next ended =>
    cases failed
    exact ended
  · cases failed

/-- What a program keeps for itself, and a register of its calls. -/
structure Register (σ κ α : Type) where
  own : κ
  /-- The calls that have ended. -/
  calls : List (Call σ κ α)
  /-- How each run of the callback of the innermost active call ended, oldest first. -/
  ends : List (Outcome α)

/-- A system without the register. -/
def System.seen (sys : System σ (Register σ κ α)) : System σ κ :=
  ⟨sys.env, sys.pools, sys.executors, sys.own.own⟩

def System.register (sys : System σ κ) (register : Register σ κ α) : System σ (Register σ κ α) :=
  ⟨sys.env, sys.pools, sys.executors, { register with own := sys.own }⟩

/-- What a thread does, in the callback of a call or outside of all calls. -/
inductive Nest (σ κ α : Type) where
  | finish (outcome : Outcome α)
  /-- Anything that leaves the marks as they were, with the transaction of the innermost active
  call at hand. -/
  | work (act : Transaction → System σ κ → Transaction × System σ κ)
      (keeps : ∀ t sys, (act t sys).2.marks = sys.marks) (next : κ → Nest σ κ α)
  | call (executor : Nat) (limit : Option (Option Duration)) (session : Session)
      (callback : Nat → Nest σ κ α) (next : Outcome α → Session → Nest σ κ α)

namespace Executor
variable [Service σ]

/-- A call with the deadline of the settings, or with one of its own. -/
def invoke (x : Nat) (thread : Thread) (session : Session) (limit : Option (Option Duration))
    (work : Work σ κ α) : Sys σ κ (Outcome α × Session) :=
  match limit with
  | none => run x thread session work
  | some timeout => runWithTimeout x thread session timeout work

theorem invoke_eq (x : Nat) (thread : Thread) (session : Session)
    (limit : Option (Option Duration)) (work : Work σ κ α) (sys : System σ κ) :
    ∃ timeout, invoke x thread session limit work sys =
      runWithTimeout x thread session timeout work sys := by
  cases limit with
  | none => exact ⟨_, rfl⟩
  | some timeout => exact ⟨timeout, rfl⟩

end Executor

namespace Nest

def act (work : System σ κ → β × System σ κ) : Sys σ (Register σ κ α) (β × κ) := fun sys =>
  let (b, after) := work sys.seen
  ((b, after.own), after.register sys.own)

/-- Takes down how a run of the callback of the innermost active call ended. -/
def note (outcome : Outcome α) : Sys σ (Register σ κ α) Unit := fun sys =>
  ((), { sys with own := { sys.own with ends := sys.own.ends ++ [outcome] } })

variable [Service σ]

/-- Makes a call, and registers it when it has ended. -/
def place (x : Nat) (thread : Thread) (above : List Nat) (session : Session)
    (limit : Option (Option Duration)) (work : Executor.Work σ (Register σ κ α) α) :
    Sys σ (Register σ κ α) (Outcome α × Session) := fun sys =>
  let ((outcome, returned), after) := Executor.invoke x thread session limit work
    { sys with own := { sys.own with ends := [] } }
  let call : Call σ κ α :=
    ⟨x, above, session, sys.seen, after.own.ends, outcome, returned, after.seen⟩
  ((outcome, returned),
    { after with own := ⟨after.own.own, after.own.calls ++ [call], sys.own.ends⟩ })

/-- Goes on below the calls that are active. Outside of all calls, the transaction at hand is one
that no call knows of. -/
def perform (thread : Thread) : Nest σ κ α → List Nat → Transaction →
    Sys σ (Register σ κ α) (Outcome α × Transaction)
  | finish outcome, _, t => pure (outcome, t)
  | work act _ next, above, t => do
    let (t, own) ← Nest.act (act t)
    (next own).perform thread above t
  | call x limit session callback next, above, t => do
    let (outcome, returned) ← place x thread above session limit fun attempt t => do
      let (outcome, t) ← (callback attempt).perform thread (x :: above) t
      note outcome
      pure (outcome, t)
    (next outcome returned).perform thread above t

end Nest

section
variable [Service σ]

/-- A failure that a call has only handed on: the last run of its callback ended in it, or that run
ended well, and the last thing that happened was a commit that was answered with it. -/
def HandedOn (ends : List (Outcome α)) (returned : Session) (env : Env σ) : Prop :=
  ends.getLast? = some (.error .nestedTransaction) ∨
  (∃ value, ends.getLast? = some (.ok value)) ∧
    ∃ (t after : Transaction) (before : Env σ),
      t.commit before = ((.error .nestedTransaction, after), env) ∧
      returned.transaction = some after

theorem HandedOn.prepend {ends : List (Outcome α)} {returned : Session} {env : Env σ}
    (handedOn : HandedOn ends returned env) (earlier : List (Outcome α)) :
    HandedOn (earlier ++ ends) returned env := by
  have last {outcome : Outcome α} (same : ends.getLast? = some outcome) :
      (earlier ++ ends).getLast? = some outcome := by
    rw [List.getLast?_append, same, Option.some_or]
  obtain same | ⟨⟨value, same⟩, answered⟩ := handedOn
  · exact .inl (last same)
  · exact .inr ⟨⟨value, last same⟩, answered⟩

theorem HandedOn.ne_nil {ends : List (Outcome α)} {returned : Session} {env : Env σ}
    (handedOn : HandedOn ends returned env) : ends ≠ [] := by
  rintro rfl
  obtain same | ⟨⟨value, same⟩, -⟩ := handedOn
  · cases same
  · cases same

/-- What holds of each call. -/
structure Call.Guarded (thread : Thread) (call : Call σ κ α) : Prop where
  /-- It is refused, without a run of its callback, just if its executor is busy further up. -/
  refused : call.executor ∈ call.above ↔
    call.outcome = .error .nestedTransaction ∧ call.ends = []
  untouched : call.executor ∈ call.above → call.returned = call.given ∧ call.after = call.before
  handedOn : call.executor ∉ call.above → call.outcome = .error .nestedTransaction →
    HandedOn call.ends call.returned call.after.env
  balanced : call.after.marks = call.before.marks
  /-- Once the outermost call on an executor has ended, the next one is let in. -/
  released : call.executor ∉ call.above →
    ∀ executor, call.after.executors[call.executor]? = some executor → thread ∉ executor.running

end

end SessionPooling
