import SessionPooling.Proofs.Bursts
import SessionPooling.Proofs.QueueRuns

/-! Pools never overfill. Whatever a service answers, and whatever callers give back, a store keeps
within the size of its pool; and what is refused for want of room leaves the store as it is. -/
namespace SessionPooling
variable {σ : Type} [Service σ]

/-- Giving back a session in vain leaves what is stored. -/
theorem Pool.Returned.sessions_of_error {pool after : Pool} {session : Session} {e : Failure}
    {heard : List Exchange} (returned : pool.Returned session (.error e) after heard) :
    after.sessions = pool.sessions := by
  cases returned with
  | deleted => exact pool.sessions_mapDesk _
  | refused => exact pool.sessions_mapDesk _
  | turnedAway => rfl
  | unborn => exact pool.sessions_mapDesk _

/-- However a filling ends, it has stored as many of the sessions that came as there was room for,
the first of them, and nothing else has changed in the store. -/
theorem Pool.bind_adds {pool : Pool} (oneStore : pool.kind ≠ .transactionPinging)
    (stocked : pool.Stocked) (numbered : pool.Numbered) (backend : BackendId)
    (env : Env (Recorder σ)) :
    let bound := pool.bind backend env
    ∃ heard fresh, bound.2.service.heard = env.service.heard ++ heard ∧
      fresh.map Session.id? =
        ((idsIssued heard).take (pool.capacity - pool.sessions.length)).map some ∧
      pool.sessions.Sublist bound.1.2.sessions ∧
      bound.1.2.sessions.Perm (fresh ++ pool.sessions) := by
  intro bound
  have filling (kind : pool.kind = .fixed ∨ pool.kind = .pinging) :
      ∃ heard fresh, bound.2.service.heard = env.service.heard ++ heard ∧
        fresh.map Session.id? =
          ((idsIssued heard).take (pool.capacity - pool.sessions.length)).map some ∧
        pool.sessions.Sublist bound.1.2.sessions ∧
        bound.1.2.sessions.Perm (fresh ++ pool.sessions) := by
    obtain ⟨heard, accepted, fresh, grown, batches, born, filled⟩ :=
      bind_fills kind stocked numbered backend env
    have names := Session.names_of_born born
    rw [batches.accepted_eq] at names
    exact ⟨heard, fresh, grown, names, filled.sublist, filled.sessions_perm⟩
  cases pool with
  | fixed pool => exact filling (.inl rfl)
  | pinging pool => exact filling (.inr rfl)
  | bursty pool =>
    -- Nothing is asked for before someone takes a session.
    refine ⟨[], [], (List.append_nil _).symm, ?_, .refl _, .refl _⟩
    exact (congrArg (List.map some) List.take_nil).symm
  | transactionPinging pool => exact (oneStore rfl).elim

namespace Lending

theorem play_settles_of_bursty (ops : List (Op σ)) :
    ∀ {l : Lending σ}, l.pool.bounded = false → l.pool.stats.available ≤ l.pool.capacity →
      (l.play ops).pool.stats.available ≤ l.pool.capacity := by
  induction ops with
  | nil => exact fun _ few => few
  | cons op ops ih =>
    intro l isBursty few
    obtain ⟨heard, stepped⟩ := l.step_stepped op
    have fewNext := step_settles isBursty few op
    rw [← stepped.kin.capacity] at fewNext ⊢
    exact ih (stepped.kin.bounded.trans isBursty) fewNext

/-- What can be taken from a pool never exceeds its size, whoever gives back what. -/
theorem startAmong_play_available (strangers : List Session) (parts : PoolParts) (clock : Clock)
    (services : σ) (ops : List (Op σ)) :
    ((startAmong strangers parts clock services).play ops).pool.stats.available ≤
      parts.places := by
  have begun := stocked_startAmong strangers parts clock services
  have capacity := startAmong_play_capacity strangers parts clock services ops
  cases isBounded : (startAmong strangers parts clock services).pool.bounded with
  | true =>
    have bounded := (play_kin ops (startAmong strangers parts clock services)).bounded
    have stocked := stocked_play ops begun (bounded.trans isBounded)
    rwa [capacity] at stocked
  | false =>
    have none : parts.pool.stats.available = 0 := by
      have stored := parts.pool.available_le_sessions
      rw [parts.pool_sessions] at stored
      exact Nat.le_zero.1 stored
    have few := play_settles_of_bursty ops isBounded
      (Nat.le_trans (Nat.le_of_eq none) (Nat.zero_le _))
    exact Nat.le_trans few (Nat.le_of_eq parts.pool_capacity)

/-- Nothing waits beside the store of a pool that has only one. -/
theorem startAmong_play_stored (strangers : List Session) {parts : PoolParts} (clock : Clock)
    (services : σ) (ops : List (Op σ)) (oneStore : parts.kind ≠ .transactionPinging) :
    ((startAmong strangers parts clock services).play ops).pool.sessions.length ≤ parts.places := by
  have kind := startAmong_play_kind strangers parts clock services ops
  have available := startAmong_play_available strangers parts clock services ops
  have waiting : ((startAmong strangers parts clock services).play ops).pool.waiting = [] := by
    cases same : ((startAmong strangers parts clock services).play ops).pool with
    | transactionPinging pool =>
      rw [same] at kind
      exact (oneStore kind.symm).elim
    | _ => rfl
  rwa [Pool.length_sessions, waiting]

/-- In every run, also of callers who give back sessions that are not of the pool, the stored
sessions of a pool with one store fit into it. A giving back that fails leaves what is stored. A
filling stores as many of the sessions that come as there is room for, the first of them, and leaves
what was stored before, also if it ends because more came. -/
theorem play_never_overfull (strangers : List Session) (parts : PoolParts) (clock : Clock)
    (services : σ) (ops : List (Op σ)) (oneStore : parts.kind ≠ .transactionPinging) :
    let l := (startAmong strangers parts clock services).play ops
    l.pool.sessions.length ≤ parts.places ∧
      (∀ session e,
        let put := l.pool.put session l.env
        put.1.1 = .error e → put.1.2.sessions = l.pool.sessions) ∧
      ∀ backend,
        let filled := l.pool.bind backend l.env
        ∃ heard fresh, filled.2.service.heard = l.heard ++ heard ∧
          fresh.map Session.id? =
            ((idsIssued heard).take (parts.places - l.pool.sessions.length)).map some ∧
          l.pool.sessions.Sublist filled.1.2.sessions ∧
          filled.1.2.sessions.Perm (fresh ++ l.pool.sessions) := by
  intro l
  have kind : l.pool.kind ≠ .transactionPinging := by
    rw [startAmong_play_kind strangers parts clock services ops]
    exact oneStore
  have capacity : l.pool.capacity = parts.places :=
    startAmong_play_capacity strangers parts clock services ops
  refine ⟨startAmong_play_stored strangers clock services ops oneStore, ?_, ?_⟩
  · intro session e put failed
    obtain ⟨heard, -, returned⟩ := l.pool.put_returned session l.env
    have returned : l.pool.Returned session put.1.1 put.1.2 heard := returned
    rw [failed] at returned
    exact returned.sessions_of_error
  · intro backend filled
    have stocked : l.pool.Stocked :=
      stocked_play ops (stocked_startAmong strangers parts clock services)
    rw [← capacity]
    exact Pool.bind_adds kind stocked
      (startAmong_play_numbered strangers parts clock services ops) backend l.env

/-- A service brings more than it is asked for, and a session of another pool is given back. -/
theorem play_never_overfull_of_surplus :
    let parts := PoolParts.ofConfig { PoolConfig.standard with kind := .pinging, size := 2 }
    let stranger := Session.existing ⟨"stranger"⟩ 7 .empty Clock.running.now
    let services := Fleet.ofBackends [.reliable (.fresh none none false) 3]
    let ops : List (Op Fleet) := [.bind 0, .put 0, .get none, .bind 0]
    let l := (startAmong [stranger] parts .running services).play ops
    (parts.kind ≠ .transactionPinging ∧
      (l.pool.put stranger l.env).1.1 = .error (.poolFull 2)) ∧
      l.pool.sessions.map (·.id?) = [some ⟨"session-2"⟩, some ⟨"session-6"⟩] ∧
      l.pool.sessions.length ≤ parts.places ∧
      (l.pool.put stranger l.env).1.2.sessions = l.pool.sessions := by
  intro parts stranger services ops l
  have refused : (l.pool.put stranger l.env).1.1 = .error (.poolFull 2) := by decide +kernel
  have stored : l.pool.sessions.map (·.id?) = [some ⟨"session-2"⟩, some ⟨"session-6"⟩] := by
    decide +kernel
  obtain ⟨fits, unchanged, -⟩ := play_never_overfull [stranger] parts .running services ops nofun
  -- The run is not to be played again to see that both speak of the same state.
  have same : (startAmong [stranger] parts .running services).play ops = l := rfl
  rw [same] at unchanged
  exact ⟨⟨nofun, refused⟩, stored, fits, unchanged stranger _ refused⟩

end Lending
end SessionPooling
