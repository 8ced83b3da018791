import SessionPooling.Scenario.Stage
import SessionPooling.Scenario.Step

/-! What the steps about sessions and transactions do. An operation that fails leaves the
session in its slot as it was. -/
namespace SessionPooling.Scenario

namespace SessionStep

def change (slot : String) (work : Session → Act Fleet (Answer × Session)) : Play Answer := do
  match (← Play.stage).session? slot with
  | none => pure .noSession
  | some session => do
    let (answer, session) ← Sys.act (work session)
    Play.onStage (·.withSession slot session)
    pure answer

def look (slot : String) (work : Session → Act Fleet Answer) : Play Answer :=
  change slot fun session => do
    pure (← work session, session)

/-- Does something that gives the changed session or fails and changes nothing. -/
def update (slot : String) (write : Session → Answer)
    (work : Session → Act Fleet (Except Failure Session)) : Play Answer :=
  change slot fun session => do
    match ← work session with
    | .ok session => pure (.ok (write session), session)
    | .error e => pure (.failed e, session)

def keep (slot : String) (make : Instant → Session) : Play Answer := do
  let session := make (← Sys.act Act.now)
  Play.onSessions (·.hold slot session)
  pure .nothing

/-- Moves the transaction of a session into a slot of its own. -/
def detach (slot transactionSlot : String) : Play Answer := do
  match (← Play.stage).session? slot with
  | none => pure .noSession
  | some session => do
    let (taken, session) := session.takeTransaction
    Play.onStage (·.withSession slot session)
    match taken with
    | none => pure .nothing
    | some t => do
      Play.onTransactions (·.hold transactionSlot t)
      pure (.transaction t)

def play (slot : String) : SessionStep → Play Answer
  | unborn backend template => keep slot (.unborn backend template)
  | existing id backend template => keep slot (.existing id backend template)
  | drop => do
    Play.onSessions (·.drop slot)
    pure .nothing
  | inspect => look slot fun session => pure (.session session)
  | diagnostic => look slot fun session => pure (.text session.diagnostic)
  | create => update slot (fun _ => .nothing) (·.create)
  | ping => update slot (fun _ => .nothing) (·.ping)
  | delete => look slot fun session => do
    pure (.ofExcept (fun _ => .nothing) (← session.delete))
  | probe => look slot fun session => do
    pure (.ofExcept .flag (← session.exists?))
  | touch => change slot fun session => do
    pure (.nothing, ← session.touch)
  | setInUse inUse => change slot fun session => pure (.nothing, session.setInUse inUse)
  | newTransaction =>
    update slot (fun session => .ofOption .transaction session.transaction) fun session =>
      pure session.newTransaction
  | takeTransaction transactionSlot => detach slot transactionSlot

end SessionStep

namespace TransactionStep

def onTransaction :
    TransactionStep → Transaction → Act Fleet (Except Failure Answer × Transaction)
  | begin, t => do
    let (result, t) ← t.begin
    pure (result.map fun id => .text id.text, t)
  | buffer mutation, t =>
    let (result, t) := t.buffer mutation
    pure (result.map fun _ => .nothing, t)
  | commit, t => do
    let (result, t) ← t.commit
    pure (result.map .time, t)
  | rollback, t => do
    let (result, t) ← t.rollback
    pure (result.map fun _ => .nothing, t)
  | inspect, t => pure (.ok (.transaction t), t)
  | diagnostic, t => pure (.ok (.text t.diagnostic), t)

def onPlace (place : TransactionPlace)
    (work : Transaction → Act Fleet (Except Failure Answer × Transaction)) :
    Play (Option (Except Failure Answer)) :=
  match place with
  | .alone slot => do
    match (← Play.stage).transactions.get? slot with
    | none => pure none
    | some t => do
      let (result, t) ← Sys.act (work t)
      Play.onTransactions (·.hold slot t)
      pure (some result)
  | .given => do
    match (← Play.stage).given with
    | none => pure none
    | some t => do
      let (result, t) ← Sys.act (work t)
      Play.onStage ({ · with given := some t })
      pure (some result)
  | .onSession slot => do
    match (← Play.stage).session? slot with
    | none => pure none
    | some session =>
      match session.transaction with
      | none => pure none
      | some t => do
        let (result, t) ← Sys.act (work t)
        Play.onStage (·.withSession slot { session with transaction := some t })
        pure (some result)

def play (place : TransactionPlace) (decisive : Bool) (step : TransactionStep) :
    Play (Answer × Signal) := do
  match ← onPlace place step.onTransaction with
  | none => pure (.noTransaction, .goOn)
  | some (.ok answer) => pure (.ok answer, .goOn)
  | some (.error e) => pure (.failed e, if decisive then .fail e else .goOn)

end TransactionStep

end SessionPooling.Scenario
