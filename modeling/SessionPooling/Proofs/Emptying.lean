import SessionPooling.Backend.Fleet
import SessionPooling.Proofs.Lending

/-! Emptying a pool. Whatever the services answer, each of its sessions is deleted once, in the
order in which they would leave it and then those that wait, and nothing is left of them. Only the
first failure is handed on, and that a session is gone already is none. -/
namespace SessionPooling
variable {σ : Type}

namespace Pool

/-- The sessions that leave a pool one after another, until there is none to take. -/
inductive Pops : Pool → List Session → Prop where
  | nothing {pool} (none : pool.pop? = none) : Pops pool []
  | next {pool first rest others} (taken : pool.pop? = some (first, rest))
      (more : Pops rest others) : Pops pool (first :: others)

theorem sessions_of_nothing {pool : Pool} (nothing : pool.pop? = none) :
    pool.sessions = pool.waiting := by
  cases pool with
  | fixed pool =>
    obtain ⟨desk, size, defaultTimeout, maxAge, stored⟩ := pool
    cases stored with
    | nil => rfl
    | cons session rest => cases nothing
  | bursty pool =>
    obtain ⟨desk, targetSize, stored⟩ := pool
    cases stored with
    | nil => rfl
    | cons session rest => cases nothing
  | pinging pool =>
    have empty := PingQueue.entries_of_empty (Option.map_eq_none_iff.1 nothing)
    simp [sessions, waiting, PingQueue.sessions, empty]
  | transactionPinging pool =>
    have empty := PingQueue.entries_of_empty (Option.map_eq_none_iff.1 nothing)
    simp [sessions, waiting, PingQueue.sessions, empty]

/-- Each session that is taken leaves one fewer, so this comes to an end. -/
theorem exists_pops (pool : Pool) :
    ∃ ready, pool.Pops ready ∧ pool.sessions = ready ++ pool.waiting := by
  cases left : pool.pop? with
  | none => exact ⟨[], .nothing left, sessions_of_nothing left⟩
  | some taken =>
    obtain ⟨first, rest⟩ := taken
    have fewer := available_of_pop? left
    have popped := popped_of_pop? left
    obtain ⟨ready, pops, sessions⟩ := exists_pops rest
    refine ⟨first :: ready, .next left pops, ?_⟩
    rw [popped.sessions, sessions, popped.waiting, List.cons_append]
termination_by pool.stats.available
decreasing_by omega

/-- What emptying a pool comes to, when `ready` is what can be taken from it, and each of its
sessions had one of the `outcomes`. -/
structure Drained (pool : Pool) (result : Except Failure Unit) (after : Pool)
    (heard : List Exchange) (ready : List Session) (outcomes : List (Except Failure Unit)) :
    Prop where
  pops : pool.Pops ready
  deletions : Session.Deletions (ready ++ pool.waiting) outcomes heard
  ok_iff : result = .ok () ↔ ∀ outcome ∈ outcomes, realFailure? outcome = none
  first : ∀ e, result = .error e → ∃ earlier later, outcomes = earlier ++ .error e :: later ∧
    e.isNotFound = false ∧ ∀ outcome ∈ earlier, realFailure? outcome = none
  after : after = pool.emptied

end Pool

namespace Lending
variable [Service σ]

/-- Whatever is in a pool and whatever the services answer, emptying it deletes each session that
is stored once, in the order in which they would be taken and then in which they wait; it succeeds
exactly when every deletion does or finds the session gone, and has the first failure otherwise.
Either way the pool has no sessions after that, counts as many as before as being out, and callers
hold what they held. -/
theorem clear_drains (l : Lending σ) :
    let cleared := l.pool.clear l.env
    ∃ heard ready outcomes, cleared.2.service.heard = l.heard ++ heard ∧
      l.pool.sessions = ready ++ l.pool.waiting ∧
      l.pool.Drained cleared.1.1 cleared.1.2 heard ready outcomes ∧
      (∀ wrap inner, Pool.Around wrap → l.pool = wrap inner →
        ready = inner.queue.sessions ∧ InPingOrder inner.queue.entries) ∧
      cleared.1.2.sessions = [] ∧
      cleared.1.2.stats.checkedOut = l.pool.stats.checkedOut ∧
      (l.step .clear).pool = cleared.1.2 ∧ (l.step .clear).held = l.held := by
  intro cleared
  obtain ⟨ready, pops, sessions⟩ := l.pool.exists_pops
  obtain ⟨heard, grown, after, outcomes, deletions, result⟩ := l.pool.clear_drained l.env
  rw [sessions] at deletions
  refine ⟨heard, ready, outcomes, grown, sessions, ⟨pops, deletions, ?_, ?_, after⟩, ?_, ?_, ?_,
    rfl, rfl⟩
  · exact result ▸ firstFailure_eq_ok_iff
  · intro e failed
    exact exists_first_of_firstFailure (result.symm.trans failed)
  · intro wrap inner around same
    refine ⟨?_, inner.queue.ordered⟩
    rw [same] at sessions
    cases around with
    | alone => simpa [Pool.sessions, Pool.waiting] using sessions.symm
    | waiting pending => exact (List.append_cancel_right sessions).symm
  · exact (congrArg Pool.sessions after).trans l.pool.sessions_emptied
  · rw [Pool.stats_checkedOut, Pool.stats_checkedOut]
    exact congrArg Desk.checkedOut ((congrArg Pool.desk after).trans l.pool.desk_emptied)

/-- The first of three sessions is gone, and the other two cannot be deleted. The last of them
waits beside the queue. -/
example :
    let parts := PoolParts.ofConfig
      { PoolConfig.standard with kind := .transactionPinging, size := 3 }
    let services := Fleet.ofBackends [.reliable (.fresh none none false) 0]
    let next (fault : Option Failure) : Op Fleet :=
      .outside (Fleet.onBackend 0 (·.arrange .delete fault))
    let ops := [.bind 0, .get none, .put 0,
      .outside (Fleet.onMemory 0 (·.expire ⟨"session-2"⟩)), next none,
      next (some Fleet.unreachable), next (some (.backend .internal "out of order"))]
    let l := (startAmong [] parts (Clock.startingAt ⟨0, by decide⟩) services).play ops
    l.pool.waiting.map (·.id?) = [some ⟨"session-1"⟩] ∧
      (l.pool.clear l.env).1.1 = .error Fleet.unreachable ∧
      (l.step .clear).pool = l.pool.emptied ∧
      (l.step .clear).heard.length = l.heard.length + 3 := by
  decide +kernel

end Lending
end SessionPooling
