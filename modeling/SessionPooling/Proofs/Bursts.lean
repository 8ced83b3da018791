import SessionPooling.Proofs.Stranded

/-! Bursts. A bursty pool creates sessions without bound while callers ask for them, and settles
afterwards: it never stores more than its target number, it knows how many sessions are out, and
no session is live on the service but those that it stores and those that are out. -/
namespace SessionPooling

/-- A session that is given back is counted, and stored only where that leaves no more than the
target number. -/
theorem BurstyPool.GivenBack.settles {pool after : BurstyPool} {session : Session}
    {heard : List Exchange} (given : pool.GivenBack session after heard)
    (few : pool.stored.length ≤ pool.targetSize) :
    after.stored.length ≤ pool.targetSize ∧ after.desk = pool.desk.countIn := by
  cases given with
  | kept room => exact ⟨room, rfl⟩
  | dismissed enough dismissed => exact ⟨few, rfl⟩

theorem Pool.put_settles {σ : Type} [Service σ] (pool : Pool) (isBursty : pool.bounded = false)
    (few : pool.stats.available ≤ pool.capacity) (session : Session) (env : Env (Recorder σ)) :
    (pool.put session env).1.2.stats.available ≤ pool.capacity ∧
      (pool.put session env).1.2.stats.checkedOut = pool.stats.checkedOut - 1 := by
  cases pool with
  | bursty pool =>
    obtain ⟨heard, -, given⟩ := pool.put_givenBack session env
    obtain ⟨stored, desk⟩ := given.settles few
    exact ⟨stored, congrArg Desk.checkedOut desk⟩
  | _ => cases isBursty

/-- A bursty pool does not look after the sessions that it stores. -/
theorem Pool.upkeep_of_bursty {σ : Type} [Service σ] (pool : Pool) (isBursty : pool.bounded = false)
    (env : Env (Recorder σ)) :
    (pool.ping env).1.2 = pool ∧ (pool.pingAllDue env).1.2 = pool ∧
      (pool.beginPending env).1.2 = pool := by
  cases pool with
  | bursty pool => exact ⟨rfl, rfl, rfl⟩
  | _ => cases isBursty

/-- A session that leaves is counted. -/
theorem Pool.Took.counted {pool after : Pool} {result : Except Failure Session}
    {heard : List Exchange} (took : pool.Took result after heard) :
    after.stats.checkedOut = pool.stats.checkedOut + (leaving result).length := by
  rw [stats_checkedOut, stats_checkedOut, took.desk]
  cases result <;> rfl

namespace Lending

section
variable {σ : Type} [Service σ] {places : Nat} {l : Lending σ}

/-- A bursty pool that stores no more than its target number and counts what is out. -/
structure Elastic (places : Nat) (l : Lending σ) : Prop where
  isBursty : l.pool.bounded = false
  capacity : l.pool.capacity = places
  available : l.pool.stats.available ≤ places
  counted : l.pool.stats.checkedOut = l.held.length

omit [Service σ] in
theorem start_elastic (parts : PoolParts) (clock : Clock) (services : σ)
    (isBursty : parts.kind = .bursty) : (start parts clock services).Elastic parts.places := by
  have bursty : parts.pool.bounded = false := by
    obtain ⟨kind, _⟩ := parts
    obtain rfl : kind = .bursty := isBursty
    rfl
  have stored := parts.pool.available_le_sessions
  rw [parts.pool_sessions] at stored
  refine ⟨bursty, parts.pool_capacity, Nat.le_trans stored (Nat.zero_le _), ?_⟩
  exact parts.pool.stats_checkedOut.trans parts.pool_checkedOut

omit [Service σ] in
theorem Elastic.stored (elastic : l.Elastic places) : l.pool.sessions.length ≤ places := by
  obtain ⟨env, pool, held⟩ := l
  cases pool with
  | bursty pool => exact elastic.available
  | _ => cases elastic.isBursty

/-- Whatever is done with a bursty pool, it stores no more than its target number. -/
theorem step_settles (isBursty : l.pool.bounded = false)
    (few : l.pool.stats.available ≤ l.pool.capacity) (op : Op σ) :
    (l.step op).pool.stats.available ≤ l.pool.capacity := by
  have of_same (pool : (l.step op).pool = l.pool) :
      (l.step op).pool.stats.available ≤ l.pool.capacity := by
    rw [pool]
    exact few
  have givesBack {place : Nat} (gives : op.GivesBack place) :
      (l.step op).pool.stats.available ≤ l.pool.capacity := by
    cases found : l.held[place]? with
    | none => exact of_same (congrArg pool (step_of_nothing gives found))
    | some session =>
      obtain ⟨pool, -, -⟩ := step_givesBack gives found
      rw [pool]
      exact (l.pool.put_settles isBursty few session l.env).1
  obtain ⟨pinged, pingedAll, begun⟩ := l.pool.upkeep_of_bursty isBursty l.env
  cases op with
  | bind backend =>
    obtain ⟨env, pool, held⟩ := l
    cases pool with
    | bursty pool => exact few
    | _ => cases isBursty
  | get timeout =>
    obtain ⟨heard, -, took⟩ := l.pool.get_took timeout l.env
    exact Nat.le_trans took.available_le few
  | put place => exact givesBack (.inl rfl)
  | release place => exact givesBack (.inr rfl)
  | clear =>
    obtain ⟨heard, -, cleared⟩ := l.pool.clear_cleared l.env
    have stored := (l.step .clear).pool.available_le_sessions
    have empty : (l.step .clear).pool.sessions = [] := cleared.sessions
    rw [empty] at stored
    exact Nat.le_trans stored (Nat.zero_le _)
  | ping => exact of_same pinged
  | pingAllDue => exact of_same pingedAll
  | beginPending => exact of_same begun
  | use place handling =>
    apply of_same
    simp only [Lending.step, useBy]
    split <;> rfl
  | outside change => exact of_same rfl
  | moveClock change => exact of_same rfl

/-- Giving back the session that is held at a place, in a scope or not. -/
theorem Elastic.givesBack (elastic : l.Elastic places) {op : Op σ} {place : Nat}
    (gives : op.GivesBack place) :
    (l.step op).pool.stats.checkedOut = (l.step op).held.length := by
  cases found : l.held[place]? with
  | none =>
    rw [step_of_nothing gives found]
    exact elastic.counted
  | some session =>
    obtain ⟨pool, -, held⟩ := step_givesBack gives found
    obtain ⟨inRange, -⟩ := List.getElem?_eq_some_iff.1 found
    obtain ⟨-, counted⟩ := l.pool.put_settles elastic.isBursty
      (Nat.le_trans elastic.available (Nat.le_of_eq elastic.capacity.symm)) session l.env
    rw [pool, held, List.length_eraseIdx_of_lt inRange, ← elastic.counted]
    exact counted

/-- Whatever is done with a bursty pool, it stays within its target number and keeps count. -/
theorem Elastic.step (elastic : l.Elastic places) (op : Op σ) : (l.step op).Elastic places := by
  obtain ⟨heard, stepped⟩ := l.step_stepped op
  have few : l.pool.stats.available ≤ l.pool.capacity :=
    Nat.le_trans elastic.available (Nat.le_of_eq elastic.capacity.symm)
  refine ⟨stepped.kin.bounded.trans elastic.isBursty, stepped.kin.capacity.trans elastic.capacity,
    Nat.le_trans (step_settles elastic.isBursty few op) (Nat.le_of_eq elastic.capacity), ?_⟩
  have of_same (pool : (l.step op).pool.stats = l.pool.stats)
      (held : (l.step op).held.length = l.held.length) :
      (l.step op).pool.stats.checkedOut = (l.step op).held.length := by
    rw [pool, held]
    exact elastic.counted
  obtain ⟨pinged, pingedAll, begun⟩ := l.pool.upkeep_of_bursty elastic.isBursty l.env
  cases op with
  | bind backend =>
    refine of_same ?_ rfl
    obtain ⟨env, pool, held⟩ := l
    cases pool with
    | bursty pool => rfl
    | _ => cases elastic.isBursty
  | get timeout =>
    obtain ⟨heard, -, took⟩ := l.pool.get_took timeout l.env
    have held : (l.step (.get timeout)).held =
        l.held ++ Pool.leaving (l.pool.get timeout l.env).1.1 := rfl
    rw [held, List.length_append, ← elastic.counted]
    exact took.counted
  | put place => exact elastic.givesBack (.inl rfl)
  | release place => exact elastic.givesBack (.inr rfl)
  | clear =>
    obtain ⟨heard, -, cleared⟩ := l.pool.clear_cleared l.env
    have desk : (l.step .clear).pool.desk = l.pool.desk := cleared.desk
    rw [Pool.stats_checkedOut, desk, ← Pool.stats_checkedOut]
    exact elastic.counted
  | ping => exact of_same (congrArg Pool.stats pinged) rfl
  | pingAllDue => exact of_same (congrArg Pool.stats pingedAll) rfl
  | beginPending => exact of_same (congrArg Pool.stats begun) rfl
  | use place handling =>
    refine of_same ?_ ?_
    · simp only [Lending.step, useBy]
      split <;> rfl
    · simp only [Lending.step, useBy]
      split
      · rfl
      · exact List.length_set
  | outside change => exact of_same rfl rfl
  | moveClock change => exact of_same rfl rfl

theorem Elastic.play (ops : List (Op σ)) :
    ∀ {l : Lending σ}, l.Elastic places → (l.play ops).Elastic places := by
  induction ops with
  | nil => exact fun elastic => elastic
  | cons op ops ih => exact fun elastic => ih (elastic.step op)

end

/-- A bursty pool takes back or deletes whatever it is given. -/
theorem turnedAway_of_bursty {σ : Type} [Service σ] (ops : List (Op σ)) :
    ∀ {l : Lending σ}, l.pool.bounded = false → l.turnedAway ops = [] := by
  induction ops with
  | nil => exact fun _ => rfl
  | cons op ops ih =>
    intro l isBursty
    obtain ⟨heard, stepped⟩ := l.step_stepped op
    have spared {place : Nat} (gives : op.GivesBack place) : op.turnedAway l = [] := by
      rw [Op.turnedAway_of_givesBack gives]
      cases l.held[place]? with
      | none => rfl
      | some session => exact if_neg (ne_true_of_eq_false isBursty)
    have none : op.turnedAway l = [] := by
      cases op with
      | put place => exact spared (.inl rfl)
      | release place => exact spared (.inr rfl)
      | _ => rfl
    rw [turnedAway, none]
    exact ih (stepped.kin.bounded.trans isBursty)

section
variable (parts : PoolParts) (clock : Clock) {services : Fleet} {i : BackendId}

/-- However large a burst was, every session that is live on the service is stored in the pool or
held by a caller, the pool stores no more than its target number, and it knows how many are held;
so when all have been given back, no more than the target number are live. -/
theorem play_settles (ops : List (Op Fleet)) (isBursty : parts.kind = .bursty)
    (reliable : services.Reliable) (unused : services.liveOn i = [])
    (tame : ∀ op ∈ ops, op.Tame i) :
    let l := (start parts clock services).play ops
    (∀ id ∈ l.live i, ∃ session ∈ l.pool.sessions ++ l.held,
      session.backend = i ∧ session.id? = some id) ∧
    l.pool.sessions.length ≤ parts.places ∧
    l.pool.stats.checkedOut = l.held.length ∧
    (l.held = [] → (l.live i).length ≤ parts.places) := by
  intro l
  have tidy : (start parts clock services).Tidy i := start_tidy parts clock reliable
  have begun : (start parts clock services).Elastic parts.places :=
    start_elastic parts clock services isBursty
  have elastic : l.Elastic parts.places := begun.play ops
  obtain ⟨tidyFinal, custody⟩ := play_tidy ops tidy tame
  rw [turnedAway_of_bursty ops begun.isBursty, List.append_nil] at custody
  have covered : ∀ id ∈ l.live i, some id ∈ l.owned.map Session.id? := by
    refine custody.covers tidy.home ?_
    have none : (start parts clock services).live i = [] := unused
    rw [none]
    exact List.forall_mem_nil _
  refine ⟨fun id member => ?_, elastic.stored, elastic.counted, fun noneHeld => ?_⟩
  · obtain ⟨session, owned, named⟩ := List.mem_map.1 (covered id member)
    exact ⟨session, owned, tidyFinal.home session owned, named⟩
  · -- No two live sessions share a name, so there are no more of them than are stored.
    have distinct : ((l.live i).map some).Nodup :=
      (tidyFinal.reliable.nodup_liveOn i).map fun _ _ => Option.some.inj
    have among : (l.live i).map some ⊆ l.pool.sessions.map Session.id? := by
      intro name member
      obtain ⟨id, live, rfl⟩ := List.mem_map.1 member
      have member := covered id live
      rwa [owned, noneHeld, List.append_nil] at member
    have fewer := (distinct.subperm among).length_le
    rw [List.length_map, List.length_map] at fewer
    exact Nat.le_trans fewer elastic.stored

end

/-- Three sessions in a burst, of which one expires while it is out. -/
theorem play_settles_of_burst :
    let parts := PoolParts.ofConfig { PoolConfig.standard with kind := .bursty, size := 1 }
    let services := Fleet.ofBackends [.reliable (.fresh none none false) 0]
    let ops : List (Op Fleet) := [.bind 0, .get none, .get none, .get none,
      .outside (Fleet.onMemory 0 (·.expire ⟨"session-2"⟩)), .put 0, .put 0, .put 0]
    let l := (start parts .running services).play ops
    parts.kind = .bursty ∧ services.Reliable ∧ services.liveOn 0 = [] ∧
      (∀ op ∈ ops, op.Tame 0) ∧ l.held = [] ∧ (l.live 0).length ≤ parts.places := by
  intro parts services ops l
  have tame : ∀ op ∈ ops, op.Tame 0 := by
    simp only [ops, List.forall_mem_cons]
    exact ⟨.bind, .get none, .get none, .get none, Op.tame_expire 0 0 _, .put 0, .put 0, .put 0,
      List.forall_mem_nil _⟩
  have noneHeld : l.held = [] := by decide +kernel
  have settles := play_settles parts .running ops rfl reliable_new rfl tame
  exact ⟨rfl, reliable_new, rfl, tame, noneHeld, settles.2.2.2 noneHeld⟩

end Lending
end SessionPooling
