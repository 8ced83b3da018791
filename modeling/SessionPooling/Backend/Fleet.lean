import SessionPooling.Backend.Faults
import SessionPooling.Dice

/-! Several services in memory, which together are an instance of `Service`. Transactions
get the names `txn-1`, `txn-2` and so on over all of them, so that no two share one. -/
namespace SessionPooling

structure Fleet where
  backends : List FaultyBackend
  begun : Nat
  dice : Dice

namespace Fleet

def ofBackends (backends : List FaultyBackend) : Fleet := ⟨backends, 0, .initial⟩

def freshTransaction (fleet : Fleet) : TransactionId := ⟨"txn-" ++ Nat.repr (fleet.begun + 1)⟩

def beganOne : (request : Request) → request.Reply → Bool
  | .begin _, .ok _ => true
  | _, _ => false

def unreachable : Failure := .backend .unavailable "no such service"

def answer (i : BackendId) (request : Request) (now : Instant) (fleet : Fleet) :
    request.Reply × Fleet :=
  match fleet.backends[i]? with
  | none => (.error unreachable, fleet)
  | some backend =>
    let (reply, backend) := backend.answer fleet.freshTransaction now request
    let begun := if beganOne request reply then fleet.begun + 1 else fleet.begun
    (reply, { fleet with backends := fleet.backends.set i backend, begun })

def roleOf (i : BackendId) (fleet : Fleet) : Option String :=
  fleet.backends[i]?.bind fun backend => backend.inner.role

def draw (fleet : Fleet) : Nat × Fleet :=
  let (drawn, dice) := fleet.dice.draw
  (drawn, { fleet with dice })

instance : Service Fleet where
  role := roleOf
  answer := answer
  draw := draw

/-- Changes one service behind the back of its users. -/
def onBackend (i : BackendId) (change : FaultyBackend → FaultyBackend) (fleet : Fleet) : Fleet :=
  { fleet with backends := fleet.backends.modify i change }

def onMemory (i : BackendId) (change : MemoryBackend → MemoryBackend) (fleet : Fleet) : Fleet :=
  fleet.onBackend i fun backend => { backend with inner := change backend.inner }

end Fleet
end SessionPooling
