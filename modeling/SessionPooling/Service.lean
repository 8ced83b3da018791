import SessionPooling.Failure
import SessionPooling.Log
import SessionPooling.Mutation
import SessionPooling.Template
import SessionPooling.Time.Clock

/-! The world outside the library: database services that answer requests, a source of
random numbers, and a clock. A service is known only by its answers, so what holds for
every instance of `Service` holds whatever a service does, in whatever state it is. -/
namespace SessionPooling

/-- Which of the services in use a request goes to. -/
abbrev BackendId := Nat

inductive Request where
  /-- Create up to so many sessions at once. -/
  | batchCreate (count : Nat) (template : Template)
  | create (template : Template)
  | probe (session : SessionId)
  | ping (session : SessionId)
  | delete (session : SessionId)
  | begin (session : SessionId)
  | commit (session : SessionId) (transaction : TransactionId) (mutations : List Mutation)
  | rollback (session : SessionId) (transaction : TransactionId)
deriving DecidableEq

/-- Requests without their arguments. -/
inductive RequestKind where
  | batchCreate
  | create
  | probe
  | ping
  | delete
  | begin
  | commit
  | rollback
deriving DecidableEq

namespace RequestKind

def all : List RequestKind := [batchCreate, create, probe, ping, delete, begin, commit, rollback]

end RequestKind

def Request.kind : Request → RequestKind
  | .batchCreate .. => .batchCreate
  | .create .. => .create
  | .probe .. => .probe
  | .ping .. => .ping
  | .delete .. => .delete
  | .begin .. => .begin
  | .commit .. => .commit
  | .rollback .. => .rollback

def Request.Answer : Request → Type
  | .batchCreate .. => List SessionId
  | .create .. => SessionId
  | .probe .. => Bool
  | .ping .. => Unit
  | .delete .. => Unit
  | .begin .. => TransactionId
  | .commit .. => Instant
  | .rollback .. => Unit

abbrev Request.Reply (request : Request) : Type := Except Failure request.Answer

/-- Services whose state, all together, is a `σ`. -/
class Service (σ : Type) where
  /-- The role that a service gives to sessions whose template names none. -/
  role : BackendId → σ → Option String
  answer : BackendId → (request : Request) → Instant → σ → request.Reply × σ
  draw : σ → Nat × σ

/-- The clock, the state of the services and the log, newest entry first. -/
structure Env (σ : Type) where
  clock : Clock
  service : σ
  log : List LogEntry

/-- Work that talks to the outside. -/
abbrev Act (σ : Type) := StateM (Env σ)

namespace Act
variable {σ : Type}

def now : Act σ Instant := fun env =>
  let (time, clock) := env.clock.look
  (time, { env with clock })

def sleep (d : Duration) : Act σ Unit :=
  fun env => ((), { env with clock := env.clock.sleep d })

/-- Waits for something else than the clock. -/
def wait (d : Duration) : Act σ Unit :=
  fun env => ((), { env with clock := env.clock.wait d })

/-- Looking at a clock that stands still changes nothing. -/
theorem now_of_not_runs {env : Env σ} (still : env.clock.runs = false) :
    now env = (env.clock.now, env) := by
  simp only [now, Clock.look_of_not_runs still]

/-- A clock that stands still does not show that someone waits. -/
theorem wait_of_not_runs {env : Env σ} (still : env.clock.runs = false) (d : Duration) :
    wait d env = ((), env) := by
  simp only [wait, Clock.wait_of_not_runs still]

def report (entry : LogEntry) : Act σ Unit :=
  fun env => ((), { env with log := entry :: env.log })

/-- Does work whose reports go elsewhere, as those of another thread do. -/
def unreported (act : Act σ α) : Act σ α := fun env =>
  let (a, after) := act env
  (a, { after with log := env.log })

variable [Service σ]

def ask (backend : BackendId) (request : Request) : Act σ request.Reply := fun env =>
  let (reply, service) := Service.answer backend request env.clock.now env.service
  (reply, { env with service })

def roleOf (backend : BackendId) : Act σ (Option String) :=
  fun env => (Service.role backend env.service, env)

def draw : Act σ Nat := fun env =>
  let (drawn, service) := Service.draw env.service
  (drawn, { env with service })

end Act
end SessionPooling
