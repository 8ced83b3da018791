import SessionPooling.System

/-! Scoped use of a pool. A scope takes a session, does its work, and puts the session back
however the work ends. -/
namespace SessionPooling.Checkout
variable {σ κ : Type} [Service σ]

/-- Puts a session back at the end of its scope. A pool that refuses it is reported, since
the scope has a result of its own. -/
def giveBack (pool : Nat) (session : Session) : Sys σ κ Unit := do
  match ← Sys.onPool pool (·.put session) with
  | .error e =>
    Sys.act (Act.report
      ⟨.warn, Desk.logTarget, "Failed to return session to pool",
        [("session", .text session.shownId), ("error", .text e.message)]⟩)
  | _ => pure ()

def scope (pool : Nat) (timeout : Option Duration)
    (work : Session → Sys σ κ (Outcome α × Session)) : Sys σ κ (Outcome α) := do
  match ← Sys.onPool pool (·.get timeout) with
  | .error e => pure (.error e)
  | .panic => pure .panic
  | .ok session => do
    let (outcome, session) ← work session
    giveBack pool session
    pure outcome

def diagnostic (session : Session) : String :=
  Text.record "Checkout" [("session", Text.optional Session.diagnostic (some session))]

end SessionPooling.Checkout
