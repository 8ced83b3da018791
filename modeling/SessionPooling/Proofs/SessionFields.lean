import SessionPooling.Proofs.TransactionFields
import SessionPooling.Session

/-! Sessions field by field. A session keeps its name and the time of its creation in one value, and
what is done with it gives a changed session or a failure. One can look closer: each field stands by
itself, as do those of its transaction, an operation reads and writes one after the other while it
talks to the service, and where it fails it stops, with whatever is written by then. Either way it
asks the same of the service, has the same reply and leaves the same fields. -/
namespace SessionPooling

/-- What can be done with a session, or with the transaction that it has. -/
inductive SessionDeed where
  | create
  | probe
  | ping
  | touch
  | delete
  | setInUse (inUse : Bool)
  | newTransaction
  | takeTransaction
  | onTransaction (deed : TransactionDeed)
deriving DecidableEq

namespace Session
variable {σ : Type}

/-- The session after something that gives a changed one, or fails. -/
def replaced (session : Session) : Except Failure Session → Except Failure Unit × Session
  | .ok next => (.ok (), next)
  | .error e => (.error e, session)

/-- Does something with the transaction of the session, if there is one. -/
def onTransaction (session : Session)
    (work : Transaction → Act σ (Except Failure Unit × Transaction)) :
    Act σ (Except Failure Unit × Session) :=
  match session.transaction with
  | none => pure (.ok (), session)
  | some t => do
    let (reply, t) ← work t
    pure (reply, { session with transaction := some t })

variable [Service σ]

def undergo (session : Session) : SessionDeed → Act σ (Except Failure Unit × Session)
  | .create => do pure (session.replaced (← session.create))
  | .probe => do pure ((← session.exists?).map fun _ => (), session)
  | .ping => do pure (session.replaced (← session.ping))
  | .touch => do pure (.ok (), ← session.touch)
  | .delete => do pure (← session.delete, session)
  | .setInUse inUse => pure (.ok (), session.setInUse inUse)
  | .newTransaction => pure (session.replaced session.newTransaction)
  | .takeTransaction => pure (.ok (), session.takeTransaction.2)
  | .onTransaction deed => session.onTransaction (·.undergo deed)

end Session

/-- The fields of a session. Nothing in them says which of them go together. -/
structure SessionFields where
  backend : BackendId
  template : Template
  id : Option SessionId
  createdAt : Option Instant
  lastUse : Instant
  inUse : Bool
  transaction : Option TransactionFields
deriving DecidableEq

def Session.fields (session : Session) : SessionFields :=
  ⟨session.backend, session.template, session.id?, session.createdAt?, session.lastUse,
    session.inUse, session.transaction.map Transaction.fields⟩

/-- Where a session comes from. -/
inductive SessionOrigin where
  /-- It is yet to be created. -/
  | unborn
  /-- The service has created it, as one of a batch. -/
  | existing (id : SessionId)

namespace SessionOrigin

def session (origin : SessionOrigin) (backend : BackendId) (template : Template)
    (now : Instant) : Session :=
  match origin with
  | unborn => .unborn backend template now
  | existing id => .existing id backend template now

def fields (origin : SessionOrigin) (backend : BackendId) (template : Template)
    (now : Instant) : SessionFields :=
  let fields : SessionFields := ⟨backend, template, none, none, now, false, none⟩
  match origin with
  | unborn => fields
  | existing id =>
    let fields := { fields with createdAt := some fields.lastUse }
    { fields with id := some id }

theorem fields_session (origin : SessionOrigin) (backend : BackendId) (template : Template)
    (now : Instant) :
    (origin.session backend template now).fields = origin.fields backend template now := by
  cases origin with
  | unborn => rfl
  | existing id => rfl

end SessionOrigin

/-- Work on the fields of a session. -/
abbrev SessionWork (σ : Type) := FieldWork σ SessionFields

namespace SessionWork
open FieldWork
variable {σ : Type}

def requireId : SessionWork σ SessionId := do
  match (← get).id with
  | none => throw (.invalidOperation .sessionNotCreated)
  | some id => pure id

def touch : SessionWork σ Unit := do
  let now ← act Act.now
  modify ({ · with lastUse := now })

def setInUse (inUse : Bool) : SessionWork σ Unit := modify ({ · with inUse })

/-- The transaction before is given up where it is, and then replaced. -/
def newTransaction : SessionWork σ Unit := do
  let id ← requireId
  modify fun fields =>
    { fields with transaction := fields.transaction.map TransactionFields.discard }
  modify fun fields => { fields with transaction := some (.fresh id fields.backend) }

def takeTransaction : SessionWork σ Unit := modify ({ · with transaction := none })

/-- The transaction changes where it is, also if the work on it fails. -/
def onTransaction (work : TransactionWork σ Unit) : SessionWork σ Unit := do
  match (← get).transaction with
  | none => pure ()
  | some t =>
    let (reply, t) ← act (work.on t)
    modify ({ · with transaction := some t })
    settle reply

section
variable [Service σ]

def create : SessionWork σ Unit := do
  if (← get).id.isSome then throw (.invalidOperation .sessionAlreadyCreated)
  let id ← ask (← get).backend (.create (← get).template)
  let now ← act Act.now
  modify ({ · with id := some id })
  modify ({ · with createdAt := some now })
  modify ({ · with lastUse := now })

def probe : SessionWork σ Bool := do
  match (← get).id with
  | none => pure false
  | some id => ask (← get).backend (.probe id)

def ping : SessionWork σ Unit := do
  let id ← requireId
  let _ ← ask (← get).backend (.ping id)
  touch

def delete : SessionWork σ Unit := do
  let id ← requireId
  ask (← get).backend (.delete id)

def perform : SessionDeed → SessionWork σ Unit
  | .create => create
  | .probe => do let _ ← probe
  | .ping => ping
  | .touch => touch
  | .delete => delete
  | .setInUse inUse => setInUse inUse
  | .newTransaction => newTransaction
  | .takeTransaction => takeTransaction
  | .onTransaction deed => onTransaction (TransactionWork.perform deed)

end

theorem on_requireId_bind {α : Type} (fields : SessionFields)
    (next : SessionId → SessionWork σ α) :
    on (requireId >>= next) fields =
      match fields.id with
      | none => pure (.error (.invalidOperation .sessionNotCreated), fields)
      | some id => (next id).on fields := by
  unfold requireId
  rw [bind_assoc, on_get_bind]
  cases fields.id with
  | none => rfl
  | some id => rfl

theorem on_newTransaction (session : Session) :
    (newTransaction : SessionWork σ Unit).on session.fields =
      pure (Prod.map id Session.fields (session.replaced session.newTransaction)) := by
  obtain ⟨backend, template, creation, lastUse, inUse, transaction⟩ := session
  cases creation with
  | none => rfl
  | some creation => rfl

theorem on_onTransaction {work : TransactionWork σ Unit}
    {whole : Transaction → Act σ (Except Failure Unit × Transaction)}
    (same : ∀ t, work.on t.fields = Prod.map id Transaction.fields <$> whole t)
    (session : Session) :
    (onTransaction work).on session.fields =
      Prod.map id Session.fields <$> session.onTransaction whole := by
  obtain ⟨backend, template, creation, lastUse, inUse, transaction⟩ := session
  cases transaction with
  | none => rfl
  | some t =>
    simp only [onTransaction, on_get_bind, Session.fields, Option.map_some, on_act_bind, same,
      bind_map_left, Session.onTransaction, map_bind]
    rfl

variable [Service σ]

/-- Three fields are written, all of them after the service has answered. -/
theorem on_create (session : Session) :
    (create : SessionWork σ Unit).on session.fields =
      Prod.map id Session.fields <$> session.undergo .create := by
  obtain ⟨backend, template, creation, lastUse, inUse, transaction⟩ := session
  cases creation with
  | some creation => rfl
  | none =>
    simp only [create, on_ite, on_get_bind, on_throw_bind, on_ask_bind, Session.undergo,
      Session.create, bind_assoc, map_bind]
    refine bind_congr fun reply => ?_
    cases reply with
    | ok id => rfl
    | error e => rfl

theorem on_probe (session : Session) :
    (probe : SessionWork σ Bool).on session.fields =
      (fun reply => (reply, session.fields)) <$> session.exists? := by
  obtain ⟨backend, template, creation, lastUse, inUse, transaction⟩ := session
  cases creation with
  | none => rfl
  | some creation => rfl

theorem on_ping (session : Session) :
    (ping : SessionWork σ Unit).on session.fields =
      Prod.map id Session.fields <$> session.undergo .ping := by
  obtain ⟨backend, template, creation, lastUse, inUse, transaction⟩ := session
  cases creation with
  | none => rfl
  | some creation =>
    simp only [ping, on_requireId_bind, on_get_bind, on_ask_bind, Session.undergo, Session.ping,
      bind_assoc, map_bind]
    refine bind_congr fun reply => ?_
    cases reply with
    | ok a => rfl
    | error e => rfl

theorem on_delete (session : Session) :
    (delete : SessionWork σ Unit).on session.fields =
      Prod.map id Session.fields <$> session.undergo .delete := by
  obtain ⟨backend, template, creation, lastUse, inUse, transaction⟩ := session
  cases creation with
  | none => rfl
  | some creation => rfl

/-- What is done field by field to the fields of a session is what is done to the session. -/
theorem on_perform (session : Session) (deed : SessionDeed) :
    (perform deed : SessionWork σ Unit).on session.fields =
      Prod.map id Session.fields <$> session.undergo deed := by
  cases deed with
  | create => exact on_create session
  | probe =>
    rw [perform, on_ignored, on_probe, bind_map_left, Session.undergo, map_bind]
    rfl
  | ping => exact on_ping session
  | touch => rfl
  | delete => exact on_delete session
  | setInUse inUse => rfl
  | newTransaction => exact on_newTransaction session
  | takeTransaction => rfl
  | onTransaction deed => exact on_onTransaction (TransactionWork.on_perform · deed) session

end SessionWork

def SessionFields.undergo {σ : Type} [Service σ] (fields : SessionFields) (deed : SessionDeed) :
    Act σ (Except Failure Unit × SessionFields) :=
  (SessionWork.perform deed).on fields

end SessionPooling
