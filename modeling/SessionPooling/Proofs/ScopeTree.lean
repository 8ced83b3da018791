import SessionPooling.Proofs.CallTree
import SessionPooling.Proofs.Desk

/-! Scopes on a pool inside each other, written out as what one thread does. A scope may use the
pool for itself or run an executor on a session of it. What is done in a scope may depend on
everything that the program knows, and it may use what the scopes around it have taken, but not
the pool itself. Every scope is written down, whether or not it got a session. -/
namespace SessionPooling
variable {σ κ α β : Type}

/-- A session that is used in any way stays the same session: the name that it has. -/
def Session.Stays (before after : Session) : Prop :=
  ∀ id, before.id? = some id → after.id? = some id

/-- What is at hand in a scope: the sessions of the scopes that are open and the transactions of
the callbacks that run, innermost first. -/
structure Hand where
  sessions : List Session
  transactions : List Transaction

structure Hand.Kept (before after : Hand) : Prop where
  sessions : List.Forall₂ Session.Stays before.sessions after.sessions
  transactions : after.transactions.length = before.transactions.length

/-- A system without what was heard of its services. -/
def System.unheard (sys : System (Recorder σ) κ) : System σ κ :=
  ⟨⟨sys.env.clock, sys.env.service.inner, sys.env.log⟩, sys.pools, sys.executors, sys.own⟩

def System.hearing (sys : System σ κ) (heard : List Exchange) : System (Recorder σ) κ :=
  ⟨⟨sys.env.clock, ⟨sys.env.service, heard⟩, sys.env.log⟩, sys.pools, sys.executors, sys.own⟩

/-- What a thread does, in scopes on a pool or outside of all of them. -/
inductive Scopes (pool : Nat) (σ κ α : Type) where
  /-- The end, also of the scope, if it is in one. -/
  | finish (outcome : Outcome α)
  /-- Anything that leaves the pool alone, with what is at hand. -/
  | use (act : Hand → System σ κ → Hand × System σ κ)
      (keeps : ∀ (hand : Hand) (sys : System σ κ), hand.Kept (act hand sys).1)
      (apart : ∀ hand sys, (act hand sys).2.pools[pool]? = sys.pools[pool]?)
      (next : κ → Scopes pool σ κ α)
  | checkout (timeout : Option Duration) (body : Scopes pool σ κ α)
      (next : Outcome α → Scopes pool σ κ α)
  /-- A run of an executor on a session that is at hand. -/
  | run (executor : Nat) (thread : Thread) (place : Nat) (timeout : Option Duration)
      (callback : Nat → Scopes pool σ κ α) (next : Outcome α → Scopes pool σ κ α)
  /-- A run of an executor on a session of the pool. -/
  | pooled (executor : Nat) (thread : Thread) (callback : Nat → Scopes pool σ κ α)
      (next : Outcome α → Scopes pool σ κ α)

/-- A scope that got a session: as it was opened, and as its end was reached. -/
structure Opening (σ κ : Type) where
  session : Session
  opened : System σ κ
  returned : Session
  ended : System σ κ

/-- A scope, whether or not it got a session. -/
structure Visit (σ κ : Type) where
  timeout : Option Duration
  before : System σ κ
  opening? : Option (Opening σ κ)
  after : System σ κ

/-- What a program keeps for itself, what is at hand, and the scopes that have ended. -/
structure Visits (σ κ : Type) where
  own : κ
  hand : Hand
  /-- In the order in which they ended. -/
  visits : List (Visit σ κ)
  /-- The opening of the scope whose end was reached last, until it is written down. -/
  last : Option (Opening σ κ)

/-- A system without the notes on its scopes. -/
def System.plain (sys : System σ (Visits σ κ)) : System σ κ := sys.keeping sys.own.own

/-- Work of which the scopes are written down. -/
abbrev Visiting (σ κ β : Type) := Sys (Recorder σ) (Visits (Recorder σ) κ) β

namespace Scopes

def act (work : Hand → System σ κ → Hand × System σ κ) : Visiting σ κ κ := fun sys =>
  let (hand, after) := work sys.own.hand sys.plain.unheard
  (after.own,
    (after.hearing sys.env.service.heard).keeping { sys.own with own := after.own, hand })

/-- The body of a scope, which has its session at hand. -/
def holding (body : Visiting σ κ (Outcome α)) (session : Session) :
    Visiting σ κ (Outcome α × Session) := fun sys =>
  let sessions := session :: sys.own.hand.sessions
  let (outcome, after) := body
    { sys with own := { sys.own with hand := { sys.own.hand with sessions } } }
  let left := after.own.hand
  let hand := { left with sessions := left.sessions.tail }
  ((outcome, left.sessions.headD session), { after with own := { after.own with hand } })

/-- A callback, which has its transaction at hand. -/
def handling (callback : Visiting σ κ (Outcome α)) (t : Transaction) :
    Visiting σ κ (Outcome α × Transaction) := fun sys =>
  let transactions := t :: sys.own.hand.transactions
  let (outcome, after) := callback
    { sys with own := { sys.own with hand := { sys.own.hand with transactions } } }
  let left := after.own.hand
  let hand := { left with transactions := left.transactions.tail }
  ((outcome, left.transactions.headD t), { after with own := { after.own with hand } })

/-- Takes down how a scope was opened and how its end was reached. -/
def noting (inside : Session → Visiting σ κ (Outcome α × Session)) (session : Session) :
    Visiting σ κ (Outcome α × Session) := fun sys =>
  let ((outcome, returned), ended) := inside session sys
  let opening : Opening (Recorder σ) κ := ⟨session, sys.plain, returned, ended.plain⟩
  ((outcome, returned), { ended with own := { ended.own with last := some opening } })

variable [Service σ] {pool : Nat}

/-- A run on the session that is at hand at a place. Without one there is nothing to run on. -/
def running (x : Nat) (thread : Thread) (place : Nat) (timeout : Option Duration)
    (callback : Nat → Visiting σ κ (Outcome α)) : Visiting σ κ (Outcome α) := fun sys =>
  match sys.own.hand.sessions[place]? with
  | none => (.panic, sys)
  | some session =>
    let ((outcome, session), after) := Executor.runWithTimeout x thread session timeout
      (fun attempt => handling (callback attempt)) sys
    let left := after.own.hand
    let hand := { left with sessions := left.sessions.set place session }
    (outcome, { after with own := { after.own with hand } })

/-- A scope, which is written down when it has ended. -/
def visiting (pool : Nat) (timeout : Option Duration)
    (inside : Session → Visiting σ κ (Outcome α × Session)) : Visiting σ κ (Outcome α) :=
  fun sys =>
    let (outcome, after) := Checkout.scope pool timeout (noting inside)
      { sys with own := { sys.own with last := none } }
    let visit : Visit (Recorder σ) κ := ⟨timeout, sys.plain, after.own.last, after.plain⟩
    let visits := after.own.visits ++ [visit]
    (outcome, { after with own := { after.own with visits, last := none } })

def perform : Scopes pool σ κ α → Visiting σ κ (Outcome α)
  | finish outcome => pure outcome
  | use act _ _ next => do
    let own ← Scopes.act act
    (next own).perform
  | checkout timeout body next => do
    let outcome ← visiting pool timeout (holding body.perform)
    (next outcome).perform
  | run x thread place timeout callback next => do
    let outcome ← running x thread place timeout fun attempt => (callback attempt).perform
    (next outcome).perform
  | pooled x thread callback next => do
    let outcome ← visiting pool none fun session =>
      Executor.run x thread session fun attempt => handling (callback attempt).perform
    (next outcome).perform

end Scopes
end SessionPooling
