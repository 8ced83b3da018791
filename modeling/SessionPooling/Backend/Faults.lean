import SessionPooling.Backend.Memory

/-! A service in memory that misbehaves as arranged: requests can be made to fail before
they reach it, and requests for several sessions to bring too many. -/
namespace SessionPooling

/-- What the next requests of each kind meet, in order. Nothing in the place of a failure
lets one request through. -/
abbrev FaultPlan := List (RequestKind × Option Failure)

namespace FaultPlan

/-- What the next request of a kind meets, and the plan after it. -/
def next (kind : RequestKind) : FaultPlan → Option Failure × FaultPlan
  | [] => (none, [])
  | (k, fault) :: rest =>
    if k = kind then (fault, rest)
    else
      let (found, rest) := next kind rest
      (found, (k, fault) :: rest)

end FaultPlan

/-- A service in memory behind a connection that fails as planned. -/
structure FaultyBackend where
  inner : MemoryBackend
  plan : FaultPlan
  /-- How many more sessions than asked for a request for several brings. -/
  surplus : Nat
deriving DecidableEq

namespace FaultyBackend

def reliable (inner : MemoryBackend) (surplus : Nat) : FaultyBackend := ⟨inner, [], surplus⟩

def arrange (backend : FaultyBackend) (kind : RequestKind) (fault : Option Failure) :
    FaultyBackend :=
  { backend with plan := backend.plan ++ [(kind, fault)] }

/-- Answers a request. One that fails here does not reach the service. -/
def answer (backend : FaultyBackend) (fresh : TransactionId) (now : Instant) :
    (request : Request) → request.Reply × FaultyBackend := fun request =>
  let (fault, plan) := backend.plan.next request.kind
  let backend := { backend with plan }
  match fault with
  | some e => (.error e, backend)
  | none =>
    match request with
    | .batchCreate count template =>
      let (reply, inner) :=
        backend.inner.answer fresh now (.batchCreate (count + backend.surplus) template)
      (reply, { backend with inner })
    | request =>
      let (reply, inner) := backend.inner.answer fresh now request
      (reply, { backend with inner })

end FaultyBackend
end SessionPooling
