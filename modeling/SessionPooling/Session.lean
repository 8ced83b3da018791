import SessionPooling.Transaction

/-! Sessions: handles on conversations with a service. A session is a value, and whoever
has it may use it: a pool, a checkout, or a caller between taking it and putting it back.
Each operation either succeeds and gives the changed session, or fails and changes
nothing. -/
namespace SessionPooling

structure Creation where
  id : SessionId
  time : Instant
deriving DecidableEq

structure Session where
  backend : BackendId
  template : Template
  /-- Absent until the service has created the session. -/
  creation : Option Creation
  lastUse : Instant
  inUse : Bool
  transaction : Option Transaction
deriving DecidableEq

namespace Session

def unborn (backend : BackendId) (template : Template) (now : Instant) : Session :=
  ⟨backend, template, none, now, false, none⟩

/-- A session that the service has already created, as one of a batch. -/
def existing (id : SessionId) (backend : BackendId) (template : Template) (now : Instant) :
    Session :=
  ⟨backend, template, some ⟨id, now⟩, now, false, none⟩

def id? (session : Session) : Option SessionId := session.creation.map (·.id)

def createdAt? (session : Session) : Option Instant := session.creation.map (·.time)

def setInUse (session : Session) (inUse : Bool) : Session := { session with inUse }

/-- Attaches a fresh transaction in place of the one before. -/
def newTransaction (session : Session) : Except Failure Session :=
  match session.creation with
  | none => .error (.invalidOperation .sessionNotCreated)
  | some creation =>
    .ok { session with transaction := some (.fresh creation.id session.backend) }

/-- The transaction that `newTransaction` replaces, as whoever still has it sees it. -/
def replacedTransaction (session : Session) : Option Transaction :=
  session.transaction.map Transaction.discard

def takeTransaction (session : Session) : Option Transaction × Session :=
  (session.transaction, { session with transaction := none })

variable {σ : Type}

def touch (session : Session) : Act σ Session := do
  let now ← Act.now
  pure { session with lastUse := now }

variable [Service σ]

def create (session : Session) : Act σ (Except Failure Session) :=
  match session.creation with
  | some _ => pure (.error (.invalidOperation .sessionAlreadyCreated))
  | none => do
    match ← Act.ask session.backend (.create session.template) with
    | .error e => pure (.error e)
    | .ok id => do
      let now ← Act.now
      pure (.ok { session with creation := some ⟨id, now⟩, lastUse := now })

/-- Whether the service still knows the session. One that was never created does not
exist. -/
def exists? (session : Session) : Act σ (Except Failure Bool) :=
  match session.creation with
  | none => pure (.ok false)
  | some creation => Act.ask session.backend (.probe creation.id)

/-- Keeps the session alive, which counts as a use. -/
def ping (session : Session) : Act σ (Except Failure Session) :=
  match session.creation with
  | none => pure (.error (.invalidOperation .sessionNotCreated))
  | some creation => do
    match ← Act.ask session.backend (.ping creation.id) with
    | .error e => pure (.error e)
    | .ok _ => do
      let session ← session.touch
      pure (.ok session)

def delete (session : Session) : Act σ (Except Failure Unit) :=
  match session.creation with
  | none => pure (.error (.invalidOperation .sessionNotCreated))
  | some creation => Act.ask session.backend (.delete creation.id)

/-- Deletes the session. That it is gone already counts as success. -/
def deleteQuietly (session : Session) : Act σ (Except Failure Unit) := do
  match ← session.delete with
  | .ok _ => pure (.ok ())
  | .error e => pure (if e.isNotFound then .ok () else .error e)

/-- The name of a session as log entries show it. -/
def shownId (session : Session) : String := Text.optional SessionId.diagnostic session.id?

def diagnostic (session : Session) : String :=
  Text.record "Session"
    [("id", session.shownId),
      ("created_at", Text.optional Calendar.instantText session.createdAt?),
      ("last_use_time", Calendar.instantText session.lastUse),
      ("in_use", Text.flag session.inUse),
      ("transaction", Text.optional Transaction.diagnostic session.transaction)]

end Session
end SessionPooling
