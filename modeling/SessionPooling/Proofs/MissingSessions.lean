import SessionPooling.Backend.Fleet
import SessionPooling.Proofs.RunsInStep

/-! Missing sessions. A service in memory answers a probe for a session that does not exist
either with a failure or by saying so. No one who uses a pool can tell which. -/
namespace SessionPooling

namespace MemoryBackend

/-- In whatever way the service tells, the answer to a probe comes to whether the session is
live. -/
theorem verdict_probe (backend : MemoryBackend) (session : SessionId) :
    Session.verdict (backend.probe session) = .ok (backend.isLive session) := by
  unfold probe requireLive isLive
  split
  · split
    next live => simp [Session.verdict, Except.map, live]
    next gone => simp [Session.verdict, Except.map, Failure.isNotFound, gone]
  · rfl

/-- The same service, answering a probe for a missing session in the given way. -/
def telling (asError : Bool) (backend : MemoryBackend) : MemoryBackend :=
  { backend with missingAsError := asError }

variable (asError : Bool) (backend : MemoryBackend)

theorem createMany_telling (template : Template) (count : Nat) :
    createMany template count (backend.telling asError) =
      ((createMany template count backend).1,
        (createMany template count backend).2.telling asError) := by
  induction count generalizing backend with
  | zero => rfl
  | succ count ih =>
    simp only [createMany]
    have others := ih (backend.create template).2
    have created : (backend.telling asError).create template =
        ((backend.create template).1, (backend.create template).2.telling asError) := rfl
    rw [created, others]

theorem verdict_probe_telling (session : SessionId) :
    Session.verdict (backend.probe session) =
      Session.verdict ((backend.telling asError).probe session) := by
  rw [verdict_probe, verdict_probe]
  rfl

@[simp] theorem requireLive_telling (session : SessionId) :
    (backend.telling asError).requireLive session = backend.requireLive session := rfl

theorem commit_telling (session : SessionId) (transaction : TransactionId)
    (mutations : List Mutation) (now : Instant) :
    (backend.telling asError).commit session transaction mutations now =
      ((backend.commit session transaction mutations now).1,
        (backend.commit session transaction mutations now).2.telling asError) := by
  simp only [commit, close, requireLive_telling]
  cases backend.requireLive session with
  | error e => rfl
  | ok live =>
    by_cases opened : lookup? transaction backend.transactions = some session
    · simp only [telling, opened, if_true]
      cases backend.commitFailures with
      | nil => rfl
      | cons failure rest => rfl
    · simp only [telling, opened, if_false]

theorem serve_telling (fresh : TransactionId) (now : Instant) (request : Request) :
    request.SameNews (backend.serve fresh now request).1
        ((backend.telling asError).serve fresh now request).1 ∧
      ((backend.telling asError).serve fresh now request).2 =
        (backend.serve fresh now request).2.telling asError := by
  cases request with
  | batchCreate count template =>
    have created := createMany_telling asError backend template (backend.granted count)
    have granted : (backend.telling asError).granted count = backend.granted count := rfl
    simp only [serve, granted, created]
    exact ⟨rfl, trivial⟩
  | create template => exact ⟨rfl, rfl⟩
  | probe session => exact ⟨verdict_probe_telling asError backend session, rfl⟩
  | ping session =>
    have arranged : (backend.telling asError).pingFailures = backend.pingFailures := rfl
    simp only [serve, ping, requireLive_telling, arranged]
    cases backend.pingFailures with
    | nil => exact ⟨rfl, rfl⟩
    | cons failure rest => exact ⟨rfl, rfl⟩
  | delete session => exact ⟨rfl, rfl⟩
  | begin session =>
    simp only [serve, begin, requireLive_telling]
    cases backend.requireLive session with
    | error e => exact ⟨rfl, rfl⟩
    | ok live => exact ⟨rfl, rfl⟩
  | commit session transaction mutations =>
    simp only [serve, commit_telling]
    exact ⟨rfl, trivial⟩
  | rollback session transaction =>
    simp only [serve, rollback, requireLive_telling]
    cases backend.requireLive session with
    | error e => exact ⟨rfl, rfl⟩
    | ok live => exact ⟨rfl, rfl⟩

end MemoryBackend

namespace FaultyBackend

def telling (asError : Bool) (backend : FaultyBackend) : FaultyBackend :=
  { backend with inner := backend.inner.telling asError }

theorem answer_telling (asError : Bool) (backend : FaultyBackend) (fresh : TransactionId)
    (now : Instant) (request : Request) :
    request.SameNews (backend.answer fresh now request).1
        ((backend.telling asError).answer fresh now request).1 ∧
      ((backend.telling asError).answer fresh now request).2 =
        (backend.answer fresh now request).2.telling asError := by
  have served (request : Request) := MemoryBackend.serve_telling asError
    { backend.inner with received := request :: backend.inner.received } fresh now request
  obtain ⟨inner, plan, surplus⟩ := backend
  cases met : (plan.next request.kind).1 with
  | some e =>
    simp only [answer, telling, met]
    exact ⟨.refl _ _, trivial⟩
  | none =>
    cases request with
    | batchCreate count template =>
      obtain ⟨news, left⟩ := served (.batchCreate (count + surplus) template)
      simp only [answer, telling, met]
      exact ⟨news, congrArg (FaultyBackend.mk · _ surplus) left⟩
    | _ =>
      obtain ⟨news, left⟩ := served _
      simp only [answer, telling, met]
      exact ⟨news, congrArg (FaultyBackend.mk · _ surplus) left⟩

end FaultyBackend

namespace Fleet

def telling (asError : Bool) (fleet : Fleet) : Fleet :=
  { fleet with backends := fleet.backends.map (·.telling asError) }

theorem beganOne_eq {request : Request} {reply other : request.Reply}
    (same : request.SameNews reply other) : beganOne request reply = beganOne request other := by
  cases request with
  | begin session =>
    have told : reply = other := same
    rw [told]
  | _ => rfl

theorem answer_telling (asError : Bool) (i : BackendId) (request : Request) (now : Instant)
    (fleet : Fleet) :
    request.SameNews (answer i request now fleet).1 (answer i request now (fleet.telling asError)).1 ∧
      (answer i request now (fleet.telling asError)).2 =
        (answer i request now fleet).2.telling asError := by
  have there : (fleet.telling asError).backends[i]? =
      fleet.backends[i]?.map (·.telling asError) := List.getElem?_map
  cases found : fleet.backends[i]? with
  | none =>
    rw [found] at there
    simp only [answer, found, there, Option.map_none]
    exact ⟨.refl _ _, trivial⟩
  | some backend =>
    rw [found] at there
    obtain ⟨news, left⟩ := backend.answer_telling asError fleet.freshTransaction now request
    have fresh : (fleet.telling asError).freshTransaction = fleet.freshTransaction := rfl
    simp only [answer, found, there, Option.map_some, fresh, left, ← beganOne_eq news]
    refine ⟨news, ?_⟩
    simp only [telling, List.map_set]

theorem roleOf_telling (asError : Bool) (i : BackendId) (fleet : Fleet) :
    roleOf i (fleet.telling asError) = roleOf i fleet := by
  simp only [roleOf, telling, List.getElem?_map, Option.bind_map]
  rfl

/-- Records of the same services, of which the second tell of missing sessions in the given
way. -/
def ToldApart (asError : Bool) (_ : Clock) (recorder other : Recorder Fleet) : Prop :=
  other.inner = recorder.inner.telling asError

theorem tellsAlike_toldApart (asError : Bool) : TellsAlike (ToldApart asError) := by
  constructor
  · intro clock recorder other apart backend
    have same : other.inner = recorder.inner.telling asError := apart
    change roleOf backend recorder.inner = roleOf backend other.inner
    rw [same, roleOf_telling]
  · intro clock recorder other apart backend request
    have same : other.inner = recorder.inner.telling asError := apart
    have told := answer_telling asError backend request clock.now recorder.inner
    rw [← same] at told
    exact told
  · exact fun apart _ => apart

theorem onMemory_telling (asError : Bool) (i : BackendId) (fleet : Fleet)
    (change : MemoryBackend → MemoryBackend)
    (blind : ∀ backend : MemoryBackend,
      change (backend.telling asError) = (change backend).telling asError) :
    onMemory i change (fleet.telling asError) = (onMemory i change fleet).telling asError := by
  simp only [onMemory, onBackend, telling, Fleet.mk.injEq, and_true]
  refine List.ext_getElem? fun k => ?_
  simp only [List.getElem?_modify, List.getElem?_map]
  cases fleet.backends[k]? with
  | none => rfl
  | some backend =>
    by_cases here : i = k
    · simp [here, FaultyBackend.telling, blind]
    · simp [here]

end Fleet

namespace Lending

/-- What callers do with a pool, with the sessions that they hold if it goes alike however the
services tell of missing sessions, and what can happen meanwhile: the clock moves, and sessions
expire. -/
inductive Op.Plain : Op Fleet → Prop
  | bind (backend : BackendId) : Plain (.bind backend)
  | get (timeout : Option Duration) : Plain (.get timeout)
  | put (place : Nat) : Plain (.put place)
  | release (place : Nat) : Plain (.release place)
  | clear : Plain .clear
  | ping : Plain .ping
  | pingAllDue : Plain .pingAllDue
  | beginPending : Plain .beginPending
  | use (place : Nat) (handling : Use Fleet)
      (blind : ∀ asError fleet session, handling.act (fleet.telling asError) session =
        ((handling.act fleet session).1, (handling.act fleet session).2.telling asError)) :
      Plain (.use place handling)
  | expire (i : BackendId) (session : SessionId) :
      Plain (.outside (Fleet.onMemory i (·.expire session)))
  | expireAll (i : BackendId) : Plain (.outside (Fleet.onMemory i MemoryBackend.expireAll))
  | moveClock (change : Clock → Clock) : Plain (.moveClock change)

theorem Op.Plain.fair {op : Op Fleet} (plain : op.Plain) (asError : Bool) :
    op.Fair (Fleet.ToldApart asError) := by
  cases plain with
  | use place handling blind =>
    intro clock recorder other apart session
    have same : other.inner = recorder.inner.telling asError := apart
    have alike := blind asError recorder.inner session
    rw [same, alike]
    exact ⟨rfl, rfl⟩
  | expire i session =>
    intro clock recorder other apart
    have same : other.inner = recorder.inner.telling asError := apart
    rw [same]
    exact Fleet.onMemory_telling asError i recorder.inner (·.expire session) fun _ => rfl
  | expireAll i =>
    intro clock recorder other apart
    have same : other.inner = recorder.inner.telling asError := apart
    rw [same]
    exact Fleet.onMemory_telling asError i recorder.inner .expireAll fun _ => rfl
  | moveClock change => exact fun _ _ _ apart => apart
  | _ => trivial

/-- The same run among the same services goes alike whether they report missing sessions as
failures or say that there are none: every answer, the pool, what callers hold and the time are
the same, and so is all that the services keep, every count of requests and every live session,
but for the way of telling itself. -/
theorem play_hides_missing (strangers : List Session) (parts : PoolParts) (clock : Clock)
    (services : Fleet) (ops : List (Op Fleet)) (plain : ∀ op ∈ ops, op.Plain) :
    let failing := startAmong strangers parts clock (services.telling true)
    let saying := startAmong strangers parts clock (services.telling false)
    failing.replies ops = saying.replies ops ∧
      (failing.play ops).pool = (saying.play ops).pool ∧
      (failing.play ops).held = (saying.play ops).held ∧
      (failing.play ops).env.clock = (saying.play ops).env.clock ∧
      (saying.play ops).env.service.inner =
        (failing.play ops).env.service.inner.telling false := by
  intro failing saying
  have apart : services.telling false = (services.telling true).telling false := by
    simp only [Fleet.telling, List.map_map]
    rfl
  have begun : failing.Alike (Fleet.ToldApart false) Eq saying := ⟨⟨rfl, apart⟩, rfl, rfl⟩
  obtain ⟨answers, ended⟩ := begun.play (Fleet.tellsAlike_toldApart false) ops
    fun op member => (plain op member).fair false
  exact ⟨answers, ended.pool, ended.held, ended.env.clock, ended.env.service⟩

/-- A session that expired is replaced either way when it is taken. -/
theorem play_hides_missing_of_expired :
    let parts := PoolParts.ofConfig
      { PoolConfig.standard with kind := .fixed, size := 2, maxAgeMinutes := 0 }
    let services := Fleet.ofBackends [.reliable (.fresh none none false) 0]
    let ops : List (Op Fleet) := [.bind 0, .outside (Fleet.onMemory 0 MemoryBackend.expireAll),
      .get none, .put 0, .outside (Fleet.onMemory 0 (·.expire ⟨"session-3"⟩)), .get none]
    let failing := startAmong [] parts .running (services.telling true)
    let saying := startAmong [] parts .running (services.telling false)
    (∀ op ∈ ops, op.Plain) ∧ failing.replies ops = saying.replies ops ∧
      (failing.play ops).held.map Session.id? = [some ⟨"session-4"⟩] := by
  intro parts services ops failing saying
  have plain : ∀ op ∈ ops, op.Plain := by
    intro op member
    simp only [ops, List.mem_cons, List.not_mem_nil, or_false] at member
    rcases member with rfl | rfl | rfl | rfl | rfl | rfl
    · exact .bind 0
    · exact .expireAll 0
    · exact .get none
    · exact .put 0
    · exact .expire 0 _
    · exact .get none
  have alike := play_hides_missing [] parts .running services ops plain
  refine ⟨plain, alike.1, ?_⟩
  decide +kernel

end Lending
end SessionPooling
