import SessionPooling.Service

/-! A service in memory. Sessions get the names `session-1`, `session-2` and so on, however
they are created. A session stays until it is deleted or expires; its template is
remembered also after that. A transaction is open from its beginning until a commit or a
rollback names it on a session that still exists, whether or not the commit succeeds.
Conflicts and other failures of commits and pings can be arranged ahead of time. -/
namespace SessionPooling

/-- A failure that the next commit or ping is to meet. -/
inductive ArrangedFailure where
  | conflict (hint : Option RetryHint)
  | status (code : StatusCode)
deriving DecidableEq

namespace ArrangedFailure

def toFailure (what : String) : ArrangedFailure → Failure
  | conflict hint => .aborted (what ++ " aborted due to concurrent modification") hint
  | status code => .backend code ("scripted " ++ what ++ " failure")

end ArrangedFailure

structure MemoryBackend where
  role : Option String
  /-- The most sessions that one request for several creates. -/
  batchLimit : Option Nat
  /-- Whether a probe for a session that does not exist fails instead of saying so. -/
  missingAsError : Bool
  created : Nat
  live : List SessionId
  /-- What each session was created with, latest first. -/
  templates : List (SessionId × Template)
  /-- The session on which each open transaction was begun. -/
  transactions : List (TransactionId × SessionId)
  /-- The writes of every commit that succeeded, oldest first. -/
  committed : List (SessionId × List Mutation)
  commitFailures : List ArrangedFailure
  pingFailures : List ArrangedFailure
  /-- Every request so far, latest first. -/
  received : List Request
deriving DecidableEq

namespace MemoryBackend

def fresh (role : Option String) (batchLimit : Option Nat) (missingAsError : Bool) :
    MemoryBackend where
  role
  batchLimit
  missingAsError
  created := 0
  live := []
  templates := []
  transactions := []
  committed := []
  commitFailures := []
  pingFailures := []
  received := []

def callsOf (backend : MemoryBackend) (kind : RequestKind) : Nat :=
  backend.received.countP fun request => request.kind = kind

def callsTotal (backend : MemoryBackend) : Nat := backend.received.length

def isLive (backend : MemoryBackend) (session : SessionId) : Bool :=
  decide (session ∈ backend.live)

def templateOf? (backend : MemoryBackend) (session : SessionId) : Option Template :=
  lookup? session backend.templates

/-- Ends a session without being asked to. -/
def expire (backend : MemoryBackend) (session : SessionId) : MemoryBackend :=
  { backend with live := backend.live.erase session }

def expireAll (backend : MemoryBackend) : MemoryBackend := { backend with live := [] }

def failCommit (backend : MemoryBackend) (failure : ArrangedFailure) : MemoryBackend :=
  { backend with commitFailures := backend.commitFailures ++ [failure] }

def failPing (backend : MemoryBackend) (failure : ArrangedFailure) : MemoryBackend :=
  { backend with pingFailures := backend.pingFailures ++ [failure] }

def requireLive (backend : MemoryBackend) (session : SessionId) : Except Failure Unit :=
  if session ∈ backend.live then .ok () else .error (.sessionNotFound session)

def create (backend : MemoryBackend) (template : Template) : SessionId × MemoryBackend :=
  let id : SessionId := ⟨"session-" ++ Nat.repr (backend.created + 1)⟩
  (id,
    { backend with
      created := backend.created + 1
      live := id :: backend.live
      templates := (id, template) :: backend.templates })

def createMany (template : Template) : Nat → MemoryBackend → List SessionId × MemoryBackend
  | 0, backend => ([], backend)
  | count + 1, backend =>
    let (id, backend) := backend.create template
    let (ids, backend) := createMany template count backend
    (id :: ids, backend)

def granted (backend : MemoryBackend) (count : Nat) : Nat :=
  match backend.batchLimit with
  | none => count
  | some limit => min count limit

def probe (backend : MemoryBackend) (session : SessionId) : Except Failure Bool :=
  if backend.missingAsError then (backend.requireLive session).map fun _ => true
  else .ok (backend.isLive session)

def ping (backend : MemoryBackend) (session : SessionId) : Except Failure Unit × MemoryBackend :=
  match backend.pingFailures with
  | failure :: rest => (.error (failure.toFailure "ping"), { backend with pingFailures := rest })
  | [] => (backend.requireLive session, backend)

def delete (backend : MemoryBackend) (session : SessionId) :
    Except Failure Unit × MemoryBackend :=
  (backend.requireLive session, backend.expire session)

/-- Opens a transaction, which gets the name `fresh`. -/
def begin (backend : MemoryBackend) (session : SessionId) (fresh : TransactionId) :
    Except Failure TransactionId × MemoryBackend :=
  match backend.requireLive session with
  | .error e => (.error e, backend)
  | .ok () => (.ok fresh, { backend with transactions := (fresh, session) :: backend.transactions })

def close (backend : MemoryBackend) (transaction : TransactionId) : MemoryBackend :=
  { backend with transactions := backend.transactions.filter fun t => t.1 ≠ transaction }

/-- The failure of a commit that names a transaction of another session, or none. -/
def notOpen (session : SessionId) (transaction : TransactionId) : Failure :=
  .backend .failedPrecondition
    ("transaction " ++ transaction.text ++ " is not open on session " ++ session.text)

/-- Applies the writes of a transaction, which is closed also when that fails. -/
def commit (backend : MemoryBackend) (session : SessionId) (transaction : TransactionId)
    (mutations : List Mutation) (now : Instant) : Except Failure Instant × MemoryBackend :=
  match backend.requireLive session with
  | .error e => (.error e, backend)
  | .ok () =>
    let closed := backend.close transaction
    if lookup? transaction backend.transactions = some session then
      match closed.commitFailures with
      | failure :: rest =>
        (.error (failure.toFailure "commit"), { closed with commitFailures := rest })
      | [] => (.ok now, { closed with committed := closed.committed ++ [(session, mutations)] })
    else (.error (notOpen session transaction), closed)

/-- Closes a transaction, whichever session it was begun on. -/
def rollback (backend : MemoryBackend) (session : SessionId) (transaction : TransactionId) :
    Except Failure Unit × MemoryBackend :=
  match backend.requireLive session with
  | .error e => (.error e, backend)
  | .ok () => (.ok (), backend.close transaction)

/-- Does what a request asks for. A transaction that is begun gets the name `fresh`. -/
def serve (backend : MemoryBackend) (fresh : TransactionId) (now : Instant) :
    (request : Request) → request.Reply × MemoryBackend
  | .batchCreate count template =>
    let (ids, backend) := createMany template (backend.granted count) backend
    (.ok ids, backend)
  | .create template =>
    let (id, backend) := backend.create template
    (.ok id, backend)
  | .probe session => (backend.probe session, backend)
  | .ping session => backend.ping session
  | .delete session => backend.delete session
  | .begin session => backend.begin session fresh
  | .commit session transaction mutations => backend.commit session transaction mutations now
  | .rollback session transaction => backend.rollback session transaction

/-- Answers a request, which counts whatever the answer. -/
def answer (backend : MemoryBackend) (fresh : TransactionId) (now : Instant)
    (request : Request) : request.Reply × MemoryBackend :=
  { backend with received := request :: backend.received }.serve fresh now request

@[simp] theorem received_createMany (template : Template) (count : Nat)
    (backend : MemoryBackend) :
    (createMany template count backend).2.received = backend.received := by
  induction count generalizing backend with
  | zero => rfl
  | succ count ih => exact ih _

theorem received_commit (backend : MemoryBackend) (session : SessionId)
    (transaction : TransactionId) (mutations : List Mutation) (now : Instant) :
    (backend.commit session transaction mutations now).2.received = backend.received := by
  unfold commit
  split
  · rfl
  · dsimp only
    split
    · split <;> rfl
    · rfl

theorem received_serve (backend : MemoryBackend) (fresh : TransactionId) (now : Instant)
    (request : Request) : (backend.serve fresh now request).2.received = backend.received := by
  cases request with
  | batchCreate count template => exact received_createMany template _ backend
  | create template => rfl
  | probe session => rfl
  | ping session =>
    simp only [serve, ping]
    split <;> rfl
  | delete session => rfl
  | begin session =>
    simp only [serve, begin]
    split <;> rfl
  | commit session transaction mutations =>
    exact received_commit backend session transaction mutations now
  | rollback session transaction =>
    simp only [serve, rollback]
    split <;> rfl

/-- Every request is recorded once, in front of those before it. -/
theorem received_answer (backend : MemoryBackend) (fresh : TransactionId) (now : Instant)
    (request : Request) :
    (backend.answer fresh now request).2.received = request :: backend.received :=
  received_serve _ fresh now request

end MemoryBackend
end SessionPooling
