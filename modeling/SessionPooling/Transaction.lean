import SessionPooling.Service
import SessionPooling.Text.Record
import SessionPooling.Time.Calendar

/-! Transactions: writes collected for one session and applied together. A transaction is
begun at most once, explicitly or by its commit, and ends at most once, by a commit that
succeeds, by a rollback, or by being replaced. A commit that fails leaves it as it was. -/
namespace SessionPooling

inductive TransactionStage where
  /-- The service has not heard of it. -/
  | pending
  | begun (id : TransactionId)
  | committed (id : TransactionId) (time : Instant)
  /-- Given up, whether or not it was begun before. -/
  | rolledBack (id : Option TransactionId)
deriving DecidableEq

structure Transaction where
  session : SessionId
  backend : BackendId
  stage : TransactionStage
  /-- The writes so far, oldest first. -/
  mutations : List Mutation
deriving DecidableEq

namespace Transaction

/-- A transaction with no writes, which the service has not heard of. -/
def fresh (session : SessionId) (backend : BackendId) : Transaction :=
  ⟨session, backend, .pending, []⟩

def id? (t : Transaction) : Option TransactionId :=
  match t.stage with
  | .pending => none
  | .begun id => some id
  | .committed id _ => some id
  | .rolledBack id => id

def committed? (t : Transaction) : Option Instant :=
  match t.stage with
  | .committed _ time => some time
  | _ => none

def isRolledBack (t : Transaction) : Bool :=
  match t.stage with
  | .rolledBack _ => true
  | _ => false

def isFinished (t : Transaction) : Bool :=
  match t.stage with
  | .committed .. => true
  | .rolledBack _ => true
  | _ => false

/-- Marks the transaction as replaced, without asking the service. A committed one stays
committed. -/
def discard (t : Transaction) : Transaction :=
  match t.stage with
  | .pending => { t with stage := .rolledBack none }
  | .begun id => { t with stage := .rolledBack (some id) }
  | _ => t

def buffer (t : Transaction) (mutation : Mutation) : Except Failure Unit × Transaction :=
  match t.stage with
  | .committed .. => (.error (.invalidOperation .transactionCommitted), t)
  | .rolledBack _ => (.error (.invalidOperation .transactionRolledBack), t)
  | _ => (.ok (), { t with mutations := t.mutations ++ [mutation] })

variable {σ : Type} [Service σ]

/-- Asks the service to begin a transaction that it has not heard of. -/
def requestBegin (t : Transaction) : Act σ (Except Failure TransactionId × Transaction) := do
  match ← Act.ask t.backend (.begin t.session) with
  | .error e => pure (.error e, t)
  | .ok id => pure (.ok id, { t with stage := .begun id })

def begin (t : Transaction) : Act σ (Except Failure TransactionId × Transaction) :=
  match t.stage with
  | .committed .. => pure (.error (.invalidOperation .transactionCommitted), t)
  | .rolledBack _ => pure (.error (.invalidOperation .transactionRolledBack), t)
  | .begun _ => pure (.error (.invalidOperation .transactionBegun), t)
  | .pending => t.requestBegin

def requestCommit (t : Transaction) (id : TransactionId) :
    Act σ (Except Failure Instant × Transaction) := do
  match ← Act.ask t.backend (.commit t.session id t.mutations) with
  | .error e => pure (.error e, t)
  | .ok time => pure (.ok time, { t with stage := .committed id time })

/-- Commits the transaction, after beginning it if it has not begun. -/
def commit (t : Transaction) : Act σ (Except Failure Instant × Transaction) :=
  match t.stage with
  | .committed .. => pure (.error (.invalidOperation .transactionCommitted), t)
  | .rolledBack _ => pure (.error (.invalidOperation .transactionRolledBack), t)
  | .begun id => t.requestCommit id
  | .pending => do
    match ← t.requestBegin with
    | (.error e, t) => pure (.error e, t)
    | (.ok id, t) => t.requestCommit id

/-- Rolls the transaction back. It counts as rolled back also when the service, which is
asked only if it knows the transaction, fails to do so. -/
def rollback (t : Transaction) : Act σ (Except Failure Unit × Transaction) :=
  match t.stage with
  | .committed .. => pure (.error (.invalidOperation .transactionCommitted), t)
  | .rolledBack _ => pure (.error (.invalidOperation .transactionRolledBack), t)
  | .pending => pure (.ok (), { t with stage := .rolledBack none })
  | .begun id => do
    let reply ← Act.ask t.backend (.rollback t.session id)
    pure (reply, { t with stage := .rolledBack (some id) })

def diagnostic (t : Transaction) : String :=
  Text.record "Transaction"
    [("session_id", t.session.diagnostic), ("id", Text.optional TransactionId.diagnostic t.id?),
      ("mutations", Nat.repr t.mutations.length),
      ("committed", Text.optional Calendar.instantText t.committed?),
      ("rolled_back", Text.flag t.isRolledBack)]

end Transaction
end SessionPooling
