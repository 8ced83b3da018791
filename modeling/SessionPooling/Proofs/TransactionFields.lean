import SessionPooling.Proofs.FieldWork
import SessionPooling.Transaction

/-! Transactions field by field. A transaction keeps its name, the time of its commit and whether
it was given up in one value, its stage, so that they always fit together. One can look closer: each
of them is a field by itself, which an operation checks and writes where it comes to it. Either way
it asks the same of the service, has the same reply and leaves the same fields. -/
namespace SessionPooling

/-- What can be done with a transaction while a session has it. -/
inductive TransactionDeed where
  | begin
  | buffer (mutation : Mutation)
  | commit
  | rollback
deriving DecidableEq

def Transaction.undergo {σ : Type} [Service σ] (t : Transaction) :
    TransactionDeed → Act σ (Except Failure Unit × Transaction)
  | .begin => do
    let (reply, t) ← t.begin
    pure (reply.map fun _ => (), t)
  | .buffer mutation => pure (t.buffer mutation)
  | .commit => do
    let (reply, t) ← t.commit
    pure (reply.map fun _ => (), t)
  | .rollback => t.rollback

/-- The fields of a transaction. Nothing in them says which of them go together. -/
structure TransactionFields where
  session : SessionId
  backend : BackendId
  id : Option TransactionId
  mutations : List Mutation
  committed : Option Instant
  rolledBack : Bool
deriving DecidableEq

def Transaction.fields (t : Transaction) : TransactionFields :=
  ⟨t.session, t.backend, t.id?, t.mutations, t.committed?, t.isRolledBack⟩

namespace TransactionFields

def fresh (session : SessionId) (backend : BackendId) : TransactionFields :=
  ⟨session, backend, none, [], none, false⟩

/-- Gives the transaction up without asking the service. A committed one is not given up. -/
def discard (fields : TransactionFields) : TransactionFields :=
  if fields.committed.isNone then { fields with rolledBack := true } else fields

theorem fields_discard (t : Transaction) : t.discard.fields = t.fields.discard := by
  obtain ⟨session, backend, stage, mutations⟩ := t
  cases stage with
  | pending => rfl
  | begun id => rfl
  | committed id time => rfl
  | rolledBack id => rfl

end TransactionFields

/-- Work on the fields of a transaction. -/
abbrev TransactionWork (σ : Type) := FieldWork σ TransactionFields

namespace TransactionWork
open FieldWork
variable {σ : Type}

def checkActive : TransactionWork σ Unit := do
  if (← get).committed.isSome then throw (.invalidOperation .transactionCommitted)
  if (← get).rolledBack then throw (.invalidOperation .transactionRolledBack)

def buffer (mutation : Mutation) : TransactionWork σ Unit := do
  checkActive
  modify fun fields => { fields with mutations := fields.mutations ++ [mutation] }

section
variable [Service σ]

def begin : TransactionWork σ TransactionId := do
  checkActive
  if (← get).id.isSome then throw (.invalidOperation .transactionBegun)
  let id ← ask (← get).backend (.begin (← get).session)
  modify ({ · with id := some id })
  pure id

/-- The name under which it was begun, after beginning it if it has none. -/
def requireId : TransactionWork σ TransactionId := do
  match (← get).id with
  | some id => pure id
  | none => begin

def requestCommit (id : TransactionId) : TransactionWork σ Instant := do
  let time ← ask (← get).backend (.commit (← get).session id (← get).mutations)
  modify ({ · with committed := some time })
  pure time

def commit : TransactionWork σ Instant := do
  checkActive
  let id ← requireId
  requestCommit id

/-- The mark is set before the service is asked, and stays whatever it answers. -/
def rollback : TransactionWork σ Unit := do
  checkActive
  modify ({ · with rolledBack := true })
  match (← get).id with
  | none => pure ()
  | some id => ask (← get).backend (.rollback (← get).session id)

def perform : TransactionDeed → TransactionWork σ Unit
  | .begin => do let _ ← begin
  | .buffer mutation => buffer mutation
  | .commit => do let _ ← commit
  | .rollback => rollback

end

theorem on_checkActive_bind {fields : TransactionFields} {α : Type}
    (uncommitted : fields.committed = none) (kept : fields.rolledBack = false)
    (next : Unit → TransactionWork σ α) :
    on (checkActive >>= next) fields = (next ()).on fields := by
  obtain ⟨session, backend, id, mutations, _, _⟩ := fields
  subst uncommitted kept
  rfl

theorem on_buffer (t : Transaction) (mutation : Mutation) :
    (buffer mutation : TransactionWork σ Unit).on t.fields =
      pure (Prod.map id Transaction.fields (t.buffer mutation)) := by
  obtain ⟨session, backend, stage, mutations⟩ := t
  cases stage with
  | pending => rfl
  | begun id => rfl
  | committed id time => rfl
  | rolledBack id => rfl

variable [Service σ]

theorem on_begin (t : Transaction) :
    (begin : TransactionWork σ TransactionId).on t.fields =
      Prod.map id Transaction.fields <$> t.begin := by
  obtain ⟨session, backend, stage, mutations⟩ := t
  cases stage with
  | committed id time => rfl
  | rolledBack id => rfl
  | begun id => rfl
  | pending =>
    change on begin ⟨session, backend, none, mutations, none, false⟩ = _
    rw [begin, on_checkActive_bind rfl rfl]
    simp only [on_get_bind, on_ask_bind, Option.isSome_none, Bool.false_eq_true, if_false,
      Transaction.begin, Transaction.requestBegin, map_bind]
    refine bind_congr fun reply => ?_
    cases reply with
    | ok id => rfl
    | error e => rfl

theorem on_requireId {t : Transaction} (pending : t.stage = .pending) :
    (requireId : TransactionWork σ TransactionId).on t.fields =
      Prod.map id Transaction.fields <$> t.requestBegin := by
  obtain ⟨session, backend, _, mutations⟩ := t
  subst pending
  rw [requireId, on_get_bind]
  exact on_begin ⟨session, backend, .pending, mutations⟩

theorem on_requireId_bind {fields : TransactionFields} {name : TransactionId} {α : Type}
    (begun : fields.id = some name) (next : TransactionId → TransactionWork σ α) :
    on (requireId >>= next) fields = (next name).on fields := by
  rw [requireId, bind_assoc, on_get_bind, begun]
  rfl

theorem on_requestCommit {t : Transaction} {name : TransactionId}
    (begun : t.stage = .begun name) :
    (requestCommit name : TransactionWork σ Instant).on t.fields =
      Prod.map id Transaction.fields <$> t.requestCommit name := by
  obtain ⟨session, backend, _, mutations⟩ := t
  subst begun
  simp only [requestCommit, on_get_bind, on_ask_bind, Transaction.requestCommit, map_bind]
  refine bind_congr fun reply => ?_
  cases reply with
  | ok time => rfl
  | error e => rfl

theorem on_commit (t : Transaction) :
    (commit : TransactionWork σ Instant).on t.fields =
      Prod.map id Transaction.fields <$> t.commit := by
  obtain ⟨session, backend, stage, mutations⟩ := t
  cases stage with
  | committed id time => rfl
  | rolledBack id => rfl
  | begun id =>
    rw [commit, on_checkActive_bind rfl rfl, on_requireId_bind rfl, on_requestCommit rfl]
    rfl
  | pending =>
    rw [commit, on_checkActive_bind rfl rfl, on_bind, on_requireId rfl, bind_map_left]
    simp only [Transaction.commit, Transaction.requestBegin, bind_assoc, map_bind]
    refine bind_congr fun reply => ?_
    cases reply with
    | error e => rfl
    | ok id => exact on_requestCommit (t := ⟨session, backend, .begun id, mutations⟩) rfl

theorem on_rollback (t : Transaction) :
    (rollback : TransactionWork σ Unit).on t.fields =
      Prod.map id Transaction.fields <$> t.rollback := by
  obtain ⟨session, backend, stage, mutations⟩ := t
  cases stage with
  | committed id time => rfl
  | rolledBack id => rfl
  | pending => rfl
  | begun id => rfl

/-- What is done field by field to the fields of a transaction is what is done to the transaction. -/
theorem on_perform (t : Transaction) (deed : TransactionDeed) :
    (perform deed : TransactionWork σ Unit).on t.fields =
      Prod.map id Transaction.fields <$> t.undergo deed := by
  cases deed with
  | begin =>
    rw [perform, on_ignored, on_begin, bind_map_left, Transaction.undergo, map_bind]
    rfl
  | buffer mutation => exact on_buffer t mutation
  | commit =>
    rw [perform, on_ignored, on_commit, bind_map_left, Transaction.undergo, map_bind]
    rfl
  | rollback => exact on_rollback t

end TransactionWork

def TransactionFields.undergo {σ : Type} [Service σ] (fields : TransactionFields)
    (deed : TransactionDeed) : Act σ (Except Failure Unit × TransactionFields) :=
  (TransactionWork.perform deed).on fields

end SessionPooling
