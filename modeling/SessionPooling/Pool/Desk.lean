import SessionPooling.Config.Pool
import SessionPooling.Session

/-! The front desk of a pool, the same for every kind: where new sessions come from, what
is asked for, and how many sessions are out. Each kind of pool adds its own store. -/
namespace SessionPooling

/-- The part of a pool that does not depend on how it keeps its sessions. -/
structure Desk where
  kind : PoolKind
  template : Template
  /-- Absent until the pool is bound. -/
  backend : Option BackendId
  /-- Sessions handed out and not yet returned: a number without bound, where a counter of fixed
  width would wrap around. -/
  checkedOut : Nat
deriving DecidableEq

namespace Desk

def logTarget : String := "spool::pool"

def opened (kind : PoolKind) : Desk := ⟨kind, .empty, none, 0⟩

def bind (desk : Desk) (backend : BackendId) : Desk := { desk with backend := some backend }

def countOut (desk : Desk) : Desk := { desk with checkedOut := desk.checkedOut + 1 }

/-- Counts a session that comes back. Sessions that never left do not make the count
negative. -/
def countIn (desk : Desk) : Desk := { desk with checkedOut := desk.checkedOut - 1 }

def entry (desk : Desk) (level : LogLevel) (message : String)
    (fields : List (String × LogValue)) : LogEntry :=
  ⟨level, logTarget, message, ("kind", .text desk.kind.label) :: fields⟩

def sessionEntry (desk : Desk) (level : LogLevel) (message : String) (session : Session)
    (fields : List (String × LogValue)) : LogEntry :=
  desk.entry level message (("session", .text session.shownId) :: fields)

variable {σ : Type} [Service σ]

def resolvedTemplate (desk : Desk) (backend : BackendId) : Act σ Template := do
  let fallback ← Act.roleOf backend
  pure (desk.template.orRole fallback)

def create (desk : Desk) : Act σ (Except Failure Session) :=
  match desk.backend with
  | none => pure (.error .notBound)
  | some backend => do
    let template ← desk.resolvedTemplate backend
    let now ← Act.now
    match ← (Session.unborn backend template now).create with
    | .error e => pure (.error e)
    | .ok session => do
      Act.report (desk.sessionEntry .debug "Created session" session [])
      pure (.ok session)

def replace (desk : Desk) (stale : Session) : Act σ (Except Failure Session) := do
  Act.report (desk.sessionEntry .debug "Session is not valid, recreating it" stale [])
  desk.create

def reportAcquired (desk : Desk) (session : Session) : Act σ Unit :=
  Act.report (desk.sessionEntry .debug "Acquired session" session [])

/-- How a store takes in a new session, or refuses it and stays as it was. -/
abbrev Intake (σ ρ : Type) := Session → ρ → Act σ (Except Failure ρ)

/-- Stores new sessions one after another, up to the first that the store refuses. -/
def storeAll {ρ : Type} (intake : Intake σ ρ) (backend : BackendId) (template : Template) :
    List SessionId → ρ → Act σ (Except Failure Unit × ρ)
  | [], store => pure (.ok (), store)
  | id :: rest, store => do
    let now ← Act.now
    match ← intake (.existing id backend template now) store with
    | .error e => pure (.error e, store)
    | .ok store => storeAll intake backend template rest store

/-- The failure of a service that answers a request for sessions with none. -/
def emptyBatch (created requested : Nat) : Failure :=
  .backend .unavailable
    ("batch create returned no sessions (" ++ Nat.repr created ++ " of " ++
      Nat.repr requested ++ " created)")

/-- Asks for the sessions that are still missing until none is. A service may create fewer
at a time than it is asked for, but an answer without any is a failure; so each round
brings at least one, and `rounds`, which starts at the number missing, is never used up. -/
def provisionRounds {ρ : Type} (desk : Desk) (intake : Intake σ ρ) (backend : BackendId)
    (template : Template) (requested : Nat) :
    (rounds created : Nat) → ρ → Act σ (Except Failure Nat × ρ)
  | 0, created, store => pure (.ok created, store)
  | rounds + 1, created, store =>
    if created < requested then do
      match ← Act.ask backend (.batchCreate (requested - created) template) with
      | .error e => pure (.error e, store)
      | .ok [] => pure (.error (emptyBatch created requested), store)
      | .ok (id :: more) => do
        let ids : List SessionId := id :: more
        Act.report (desk.entry .debug "Created sessions" [("count", .number ids.length)])
        match ← storeAll intake backend template ids store with
        | (.error e, store) => pure (.error e, store)
        | (.ok _, store) =>
          provisionRounds desk intake backend template requested rounds
            (created + ids.length) store
    else pure (.ok created, store)

def provision {ρ : Type} (desk : Desk) (intake : Intake σ ρ) (requested : Nat) (store : ρ) :
    Act σ (Except Failure Unit × ρ) :=
  if requested = 0 then do
    Act.report (desk.entry .info "Session pool is already full" [])
    pure (.ok (), store)
  else
    match desk.backend with
    | none => pure (.error .notBound, store)
    | some backend => do
      let template ← desk.resolvedTemplate backend
      Act.report (desk.entry .debug "Requesting sessions" [("requested", .number requested)])
      match ← desk.provisionRounds intake backend template requested requested 0 store with
      | (.error e, store) => pure (.error e, store)
      | (.ok created, store) => do
        Act.report (desk.entry .info "Provisioned sessions"
          [("requested", .number requested), ("created", .number created)])
        pure (.ok (), store)

/-- Takes sessions out of a store and deletes them until it has none, going on past failures. The
result is the number deleted, or the first failure. Each round takes one session, so `rounds`,
which starts at the number stored, is used up only when the store is. -/
def drainRounds {ρ : Type} (desk : Desk) (pop? : ρ → Option (Session × ρ)) :
    (rounds deleted : Nat) → (failure : Option Failure) → ρ → Act σ (Except Failure Nat × ρ)
  | 0, deleted, failure, store => pure (failure.elim (.ok deleted) .error, store)
  | rounds + 1, deleted, failure, store =>
    match pop? store with
    | none => pure (failure.elim (.ok deleted) .error, store)
    | some (session, store) => do
      match ← session.deleteQuietly with
      | .ok _ => drainRounds desk pop? rounds (deleted + 1) failure store
      | .error e => do
        Act.report (desk.sessionEntry .warn "Failed to delete session while clearing pool" session
          [("error", .text e.message)])
        drainRounds desk pop? rounds deleted (failure <|> some e) store

def drain {ρ : Type} (desk : Desk) (pop? : ρ → Option (Session × ρ)) (stored : Nat) (store : ρ) :
    Act σ (Except Failure Nat × ρ) :=
  desk.drainRounds pop? stored 0 none store

def reportCleared (desk : Desk) (deleted : Nat) : Act σ Unit :=
  Act.report (desk.entry .info "Cleared pool" [("deleted", .number deleted)])

/-- Drains a store, which is reported if every session could be deleted. -/
def clear {ρ : Type} (desk : Desk) (pop? : ρ → Option (Session × ρ)) (stored : Nat) (store : ρ) :
    Act σ (Except Failure Unit × ρ) := do
  match ← desk.drain pop? stored store with
  | (.error e, store) => pure (.error e, store)
  | (.ok deleted, store) => do
    desk.reportCleared deleted
    pure (.ok (), store)

end Desk
end SessionPooling
