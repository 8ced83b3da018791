import SessionPooling.Pool.Build
import SessionPooling.Scenario.Answer
import SessionPooling.Scenario.Step
import SessionPooling.System

/-! Where a scenario takes place: a system on services in memory, and what the scenario
keeps beside it. -/
namespace SessionPooling.Scenario

abbrev Slots (α : Type) := List (String × α)

namespace Slots

def get? (slots : Slots α) (name : String) : Option α := lookup? name slots

def drop (slots : Slots α) (name : String) : Slots α := slots.filter fun slot => slot.1 ≠ name

def hold (slots : Slots α) (name : String) (value : α) : Slots α :=
  (name, value) :: slots.drop name

@[simp] theorem get?_drop_self (slots : Slots α) (name : String) :
    (slots.drop name).get? name = none := by
  induction slots with
  | nil => rfl
  | cons slot rest ih =>
    obtain ⟨n, value⟩ := slot
    by_cases here : n = name
    · simpa [drop, get?, here] using ih
    · simpa [drop, get?, here] using ih

theorem get?_drop_of_ne (slots : Slots α) (apart : name ≠ sought) :
    (slots.drop name).get? sought = slots.get? sought := by
  induction slots with
  | nil => rfl
  | cons slot rest ih =>
    obtain ⟨n, value⟩ := slot
    by_cases here : n = name
    · simpa [drop, get?, here, apart] using ih
    · by_cases found : n = sought
      · simp [drop, get?, found, apart.symm]
      · simpa [drop, get?, here, found] using ih

@[simp] theorem get?_hold_self (slots : Slots α) (name : String) (value : α) :
    (slots.hold name value).get? name = some value := by
  simp [hold, get?]

theorem get?_hold_of_ne (slots : Slots α) (value : α) (apart : name ≠ sought) :
    (slots.hold name value).get? sought = slots.get? sought := by
  have rest := get?_drop_of_ne slots apart
  simpa [hold, get?, apart] using rest

def names (slots : Slots α) : List String :=
  (slots.map (·.1)).mergeSort fun a b => decide (a ≤ b)

end Slots

inductive PoolPlan where
  | ofParts (parts : PoolParts)
  /-- What is made from settings shows only what all kinds of pools have. -/
  | ofSettings (config : PoolConfig)

namespace PoolPlan

def build : PoolPlan → Outcome Pool
  | ofParts parts => parts.build
  | ofSettings config => Pool.ofConfig config

def notices : PoolPlan → List LogEntry
  | ofParts parts => parts.notices
  | ofSettings config => (PoolParts.ofConfig config).notices

/-- Whether what is special to the kind of the pool shows. -/
def showsKind : PoolPlan → Bool
  | ofParts _ => true
  | ofSettings _ => false

end PoolPlan

/-- What a scenario keeps beside the system. -/
structure Stage where
  plans : List PoolPlan
  sessions : Slots Session
  transactions : Slots Transaction
  /-- The session of the innermost checkout that is going on. -/
  held : Option Session
  /-- The transaction of the innermost attempt that is going on. -/
  given : Option Transaction
  /-- What the steps of the work that is going on have shown, time by time. -/
  transcript : List (List Answer)

namespace Stage

def session? (stage : Stage) (name : String) : Option Session :=
  if name = heldName ∧ stage.held.isSome then stage.held else stage.sessions.get? name

def withSession (stage : Stage) (name : String) (session : Session) : Stage :=
  if name = heldName ∧ stage.held.isSome then { stage with held := some session }
  else { stage with sessions := stage.sessions.hold name session }

@[simp] theorem session?_withSession_self (stage : Stage) (name : String) (session : Session) :
    (stage.withSession name session).session? name = some session := by
  unfold withSession session?
  split
  case isTrue here => simp [here]
  case isFalse => simp

end Stage

abbrev Play := Sys Fleet Stage

namespace Play

def stage : Play Stage := fun sys => (sys.own, sys)

def onStage (change : Stage → Stage) : Play Unit := fun sys =>
  ((), { sys with own := change sys.own })

def onSessions (change : Slots Session → Slots Session) : Play Unit :=
  onStage fun stage => { stage with sessions := change stage.sessions }

def onTransactions (change : Slots Transaction → Slots Transaction) : Play Unit :=
  onStage fun stage => { stage with transactions := change stage.transactions }

/-- Takes a session out of its slot. The session of a checkout is in none. -/
def takeSession? (slot : String) : Play (Option Session) := do
  let session := (← stage).sessions.get? slot
  onSessions (·.drop slot)
  pure session

/-- Plays something while a session is held, and hands it back as it is then. -/
def holding (session : Session) (play : Play α) : Play (α × Session) := do
  let before := (← stage).held
  onStage ({ · with held := some session })
  let a ← play
  let session := (← stage).held.getD session
  onStage ({ · with held := before })
  pure (a, session)

/-- Plays something that is given a transaction, and hands it back as it is then. -/
def giving (t : Transaction) (play : Play α) : Play (α × Transaction) := do
  let before := (← stage).given
  onStage ({ · with given := some t })
  let a ← play
  let t := (← stage).given.getD t
  onStage ({ · with given := before })
  pure (a, t)

def onClock (change : Clock → Clock) : Play Unit := fun sys =>
  ((), { sys with env := { sys.env with clock := change sys.env.clock } })

def onFleet (change : Fleet → Fleet) : Play Unit := fun sys =>
  ((), { sys with env := { sys.env with service := change sys.env.service } })

def clock : Play Clock := fun sys => (sys.env.clock, sys)

def pool? (pool : Nat) : Play (Option Pool) := fun sys => (sys.pools[pool]?, sys)

def executor? (executor : Nat) : Play (Option Executor) := fun sys =>
  (sys.executors[executor]?, sys)

def memory? (backend : BackendId) : Play (Option MemoryBackend) := fun sys =>
  (sys.env.service.backends[backend]?.map (·.inner), sys)

/-- How long a running clock goes on between two steps. -/
def pause : Duration := ⟨20000⟩

/-- Lets time pass, where it passes by itself. -/
def wait (d : Duration) : Play Unit := Sys.act (Act.wait d)

/-- Does work whose reports go elsewhere, as those of another thread do. -/
def unreported (play : Play α) : Play α := fun sys =>
  let (a, after) := play sys
  (a, { after with env := { after.env with log := sys.env.log } })

def note (answers : List Answer) : Play Unit := fun sys =>
  ((), { sys with own := { sys.own with transcript := sys.own.transcript ++ [answers] } })

def transcribed (play : Play α) : Play (α × List (List Answer)) := fun sys =>
  let (a, after) := play { sys with own := { sys.own with transcript := [] } }
  ((a, after.own.transcript),
    { after with own := { after.own with transcript := sys.own.transcript } })

end Play
end SessionPooling.Scenario
