import SessionPooling.Backend.Fleet
import SessionPooling.Proofs.Lending

/-! The count of sessions that are out, and the mark of those in use. Every giving back is
counted, whatever becomes of the session, but for the pool that readies transactions; so the
count is that of the sessions which callers hold. What a pool stores is never marked as in use,
whatever its holder did with the mark, and what it hands out always is. -/
namespace SessionPooling
variable {σ : Type}

namespace Pool

/-- Whether the pool readies a transaction for each session that comes back. -/
def readies : Pool → Bool
  | transactionPinging _ => true
  | _ => false

/-- No session in the pool is marked as in use. -/
def Unmarked (pool : Pool) : Prop := ∀ session ∈ pool.sessions, session.inUse = false

theorem Unmarked.subset {pool after : Pool} (unmarked : pool.Unmarked)
    (fewer : after.sessions ⊆ pool.sessions) : after.Unmarked :=
  fun session member => unmarked session (fewer member)

theorem Unmarked.of_perm {after : Pool} {sessions : List Session}
    (perm : after.sessions.Perm sessions) (unmarked : ∀ session ∈ sessions, session.inUse = false) :
    after.Unmarked :=
  fun session member => unmarked session (perm.subset member)

theorem Unmarked.mapDesk {pool : Pool} (unmarked : pool.Unmarked) (change : Desk → Desk) :
    (pool.mapDesk change).Unmarked := by
  intro session member
  rw [sessions_mapDesk] at member
  exact unmarked session member

theorem Unmarked.shelve {pool : Pool} {session : Session} (unmarked : pool.Unmarked) (now : Instant)
    (unused : session.inUse = false) : (pool.shelve now session).Unmarked :=
  Unmarked.of_perm (sessions_shelve now session pool) (List.forall_mem_cons.2 ⟨unused, unmarked⟩)

theorem Unmarked.of_pop? {pool rest : Pool} {popped : Session} (unmarked : pool.Unmarked)
    (taken : pool.pop? = some (popped, rest)) : popped.inUse = false ∧ rest.Unmarked := by
  have sessions := (popped_of_pop? taken).sessions
  constructor
  · apply unmarked
    rw [sessions]
    exact List.mem_cons_self
  · apply unmarked.subset
    rw [sessions]
    exact List.subset_cons_self _ _

end Pool

namespace Desk
variable {desk : Desk} {popped session : Session} {heard : List Exchange}

theorem Created.unused (created : desk.Created (.ok session) heard) : session.inUse = false := by
  cases created
  rfl

theorem Refreshed.unused (refreshed : desk.Refreshed popped (.fit session) heard)
    (unused : popped.inUse = false) : session.inUse = false := by
  cases refreshed with
  | pinged pinged =>
    cases pinged
    exact unused
  | replaced _ _ created => exact created.unused

end Desk

namespace Pool
variable {pool after : Pool} {heard : List Exchange}

theorem Took.unmarked {result : Except Failure Session} (took : pool.Took result after heard)
    (unmarked : pool.Unmarked) : after.Unmarked := by
  cases took with
  | exhausted => exact unmarked
  | created => exact unmarked.mapDesk _
  | notCreated => exact unmarked
  | handedOut taken => exact (unmarked.of_pop? taken).2.mapDesk _
  | lost taken => exact (unmarked.of_pop? taken).2
  | putBack => exact unmarked
  | crowdedOut taken => exact (unmarked.of_pop? taken).2

/-- Every session that is handed out is marked. -/
theorem Took.marked {session : Session} (took : pool.Took (.ok session) after heard) :
    session.inUse = true := by
  cases took with
  | created => rfl
  | handedOut => rfl

theorem Returned.unmarked {session : Session} {result : Except Failure Unit}
    (returned : pool.Returned session result after heard) (unmarked : pool.Unmarked) :
    after.Unmarked := by
  cases returned with
  | stored now room => exact (unmarked.mapDesk _).shelve now rfl
  | @waiting inner pending ready same room fresh =>
    subst same
    have unused : ready.inUse = false := by
      unfold Session.newTransaction at fresh
      split at fresh
      · cases fresh
      · cases fresh
        rfl
    intro other member
    have queued : other ∈ (inner.queue.sessions ++ pending) ++ [ready] := by
      rw [List.append_assoc]
      exact member
    rcases List.mem_append.1 queued with earlier | last
    · exact unmarked other earlier
    · rw [List.mem_singleton.1 last]
      exact unused
  | deleted => exact unmarked.mapDesk _
  | refused => exact unmarked.mapDesk _
  | turnedAway => exact unmarked
  | unborn => exact unmarked.mapDesk _

theorem Pinged.unmarked {result : Except Failure Bool} (pinged : pool.Pinged result after heard)
    (unmarked : pool.Unmarked) : after.Unmarked := by
  cases pinged with
  | idle => exact unmarked
  | stored now taken refreshed =>
    obtain ⟨unused, rest⟩ := unmarked.of_pop? taken
    exact rest.shelve now (refreshed.unused unused)
  | lost taken => exact (unmarked.of_pop? taken).2
  | putBack => exact unmarked
  | crowdedOut taken => exact (unmarked.of_pop? taken).2

theorem PingedOn.unmarked (went : pool.PingedOn after heard) (unmarked : pool.Unmarked) :
    after.Unmarked := by
  induction went with
  | done => exact unmarked
  | next pinged rest ih => exact ih (pinged.unmarked unmarked)

end Pool

theorem TransactionPingingPool.Flushed.sessions_subset {pending : List Session}
    {inner : PingingPool} {result : Except Failure Nat} {after : TransactionPingingPool}
    (flushed : Flushed pending inner result after) :
    after.inner.queue.sessions ++ after.pending ⊆ inner.queue.sessions ++ pending := by
  induction flushed with
  | done => exact List.Subset.refl _
  | refused full =>
    exact ((List.sublist_cons_self _ _).append_left _).subset
  | @moved session rest inner result after now room others ih =>
    have queued : (inner.shelve now session).queue.sessions.Perm
        (session :: inner.queue.sessions) := PingQueue.sessions_insert _ _
    have moved := (queued.append_right rest).trans List.perm_middle.symm
    exact List.Subset.trans ih moved.subset

theorem Pool.Settled.unmarked {pool after : Pool} {result : Except Failure Nat}
    (settled : Settled pool result after) (unmarked : pool.Unmarked) : after.Unmarked := by
  cases settled with
  | nothing => exact unmarked
  | flushed flushed => exact unmarked.subset flushed.sessions_subset

section Filling

theorem FixedPool.push_keepsUp :
    Desk.KeepsUp (σ := σ) (fun _ (pool : FixedPool) => (Pool.fixed pool).Unmarked)
      (fun session pool => pure (pool.push session)) where
  lasts _ unmarked := unmarked
  stores id backend template clock pool unmarked := by
    apply Act.HearsFrom.pure
    intro next pushed
    unfold push at pushed
    split at pushed
    · cases pushed
    · cases pushed
      exact List.forall_mem_cons.2 ⟨rfl, unmarked⟩

theorem PingingPool.enqueue_keepsUp :
    Desk.KeepsUp (σ := σ) (fun _ (pool : PingingPool) => (Pool.pinging pool).Unmarked)
      PingingPool.enqueue where
  lasts _ unmarked := unmarked
  stores id backend template clock pool unmarked := by
    apply Act.HearsFrom.looking
    apply Act.HearsFrom.pure
    intro next stored
    unfold enqueueAt at stored
    split at stored
    · cases stored
    · cases stored
      have before : (Pool.pinging pool).Unmarked := unmarked
      exact before.shelve _ rfl

variable [Service σ]

theorem PingingPool.bindReserving_unmarked (pool : PingingPool) (backend : BackendId)
    (reserved : Nat) (unmarked : (Pool.pinging pool).Unmarked) (env : Env (Recorder σ)) :
    (Pool.pinging (pool.bindReserving backend reserved env).1.2).Unmarked := by
  obtain ⟨_, -, -, kept⟩ := Desk.provision_keeps enqueue_byClock enqueue_keepsUp
    (pool.desk.bind backend) (pool.size - (pool.queue.size + reserved)) env.clock
    { pool with desk := pool.desk.bind backend } unmarked env rfl
  exact kept

omit [Service σ] in
theorem TransactionPingingPool.beginPending_unmarked (pool : TransactionPingingPool)
    (unmarked : (Pool.transactionPinging pool).Unmarked) (env : Env (Recorder σ)) :
    (Pool.transactionPinging (pool.beginPending env).1.2).Unmarked := by
  obtain ⟨_, -, -, flushed⟩ := pool.beginPending_flushed env
  exact unmarked.subset flushed.sessions_subset

theorem TransactionPingingPool.bind_unmarked (pool : TransactionPingingPool) (backend : BackendId)
    (unmarked : (Pool.transactionPinging pool).Unmarked) (env : Env (Recorder σ)) :
    (Pool.transactionPinging (pool.bind backend env).1.2).Unmarked := by
  obtain ⟨queued, waiting⟩ := List.forall_mem_append.1 unmarked
  have filled := pool.inner.bindReserving_unmarked backend pool.pending.length queued env
  rcases same : pool.inner.bindReserving backend pool.pending.length env with
    ⟨⟨result, inner⟩, after⟩
  rw [same] at filled
  have unmarkedAfter : (Pool.transactionPinging { pool with inner }).Unmarked :=
    List.forall_mem_append.2 ⟨filled, waiting⟩
  simp only [bind, Bind.bind, StateT.bind, same]
  cases result with
  | error e => exact unmarkedAfter
  | ok _ => exact beginPending_unmarked _ unmarkedAfter after

theorem Pool.bind_unmarked (pool : Pool) (backend : BackendId) (unmarked : pool.Unmarked)
    (env : Env (Recorder σ)) : (pool.bind backend env).1.2.Unmarked := by
  cases pool with
  | fixed pool =>
    obtain ⟨_, -, -, kept⟩ := Desk.provision_keeps FixedPool.push_byClock
      FixedPool.push_keepsUp (pool.desk.bind backend) (pool.size - pool.stored.length) env.clock
      { pool with desk := pool.desk.bind backend } unmarked env rfl
    exact kept
  | bursty pool => exact unmarked
  | pinging pool => exact pool.bindReserving_unmarked backend 0 unmarked env
  | transactionPinging pool => exact pool.bind_unmarked backend unmarked env

end Filling

section
variable [Service σ]

theorem BurstyPool.put_counts (pool : BurstyPool) (session : Session) :
    (pool.put (σ := Recorder σ) session).Hears fun r _ => r.2.desk = pool.desk.countIn := by
  unfold put
  dsimp only
  split
  · exact .pure rfl
  · apply Act.HearsAfter.silently (fun _ => rfl)
    intro _
    refine .bind (Session.deleteQuietly_deletes _) fun reply _ _ => ?_
    cases reply with
    | ok _ => exact .pure rfl
    | error e => exact .silently (fun _ => rfl) fun _ => .pure rfl

omit [Service σ] in
theorem PingingPool.put_counts (pool : PingingPool) (session : Session) :
    (pool.put (σ := Recorder σ) session).Hears fun r _ => r.2.desk = pool.desk.countIn := by
  refine .bind (enqueue_enqueued (session.setInUse false) _) ?_
  rintro result _ ⟨-, enqueued⟩
  cases enqueued with
  | stored now room => exact .pure rfl
  | refused full => exact .pure rfl

/-- Whatever becomes of a session that is given back, it is counted, unless the pool readies
transactions. -/
theorem Pool.put_counts (pool : Pool) (plain : pool.readies = false) (session : Session) :
    (pool.put (σ := Recorder σ) session).Hears fun r _ => r.2.desk = pool.desk.countIn := by
  cases pool with
  | fixed pool =>
    apply Act.HearsAfter.pure
    change (pool.put session).2.desk = pool.desk.countIn
    unfold FixedPool.put FixedPool.push
    dsimp only
    split
    next next pushed =>
      split at pushed
      · cases pushed
      · cases pushed
        rfl
    · rfl
  | bursty pool => exact .map (pool.put_counts session)
  | pinging pool => exact .map (pool.put_counts session)
  | transactionPinging pool => cases plain

end

namespace Lending
variable [Service σ]

theorem step_unmarked {l : Lending σ} (op : Op σ) (unmarked : l.pool.Unmarked) :
    (l.step op).pool.Unmarked := by
  by_cases filling : op.IsBind
  · cases op with
    | bind backend => exact l.pool.bind_unmarked backend unmarked l.env
    | _ => cases filling
  · obtain ⟨heard, -, moved⟩ := l.step_moved op
    cases moved with
    | bound filled => exact absurd filled filling
    | took took => exact took.unmarked unmarked
    | returned gives found returned => exact returned.unmarked unmarked
    | cleared emptying cleared =>
      intro session member
      rw [cleared.sessions] at member
      cases member
    | pinged pinged => exact pinged.unmarked unmarked
    | pingedOn went => exact went.unmarked unmarked
    | settled settled => exact settled.unmarked unmarked
    | used found kept held pool =>
      rw [pool]
      exact unmarked
    | untouched pool =>
      rw [pool]
      exact unmarked

/-- A pool does not come to ready transactions, and does not cease to. -/
theorem step_readies (l : Lending σ) (op : Op σ) :
    (l.step op).pool.readies = l.pool.readies := by
  have returned (session : Session) :
      (l.pool.put session l.env).1.2.readies = l.pool.readies := by
    cases l.pool <;> rfl
  have givesBack {place : Nat} (gives : op.GivesBack place) :
      (l.step op).pool.readies = l.pool.readies := by
    cases found : l.held[place]? with
    | none => rw [step_of_nothing gives found]
    | some session => rw [(step_givesBack gives found).1, returned]
  cases op with
  | put place => exact givesBack (.inl rfl)
  | release place => exact givesBack (.inr rfl)
  | use place use =>
    simp only [step, useBy]
    split <;> rfl
  | outside change => rfl
  | moveClock change => rfl
  | _ =>
    obtain ⟨env, pool, held⟩ := l
    cases pool <;> rfl

/-- Each session that callers hold is counted, and no other one. -/
structure Counted (l : Lending σ) : Prop where
  plain : l.pool.readies = false
  counted : l.pool.desk.checkedOut = l.held.length

theorem Counted.step {l : Lending σ} (counted : l.Counted) (op : Op σ) : (l.step op).Counted := by
  obtain ⟨plain, count⟩ := counted
  refine ⟨(l.step_readies op).trans plain, ?_⟩
  obtain ⟨heard, -, moved⟩ := l.step_moved op
  cases moved with
  | bound filling bound held =>
    rw [bound.desk, held]
    exact count
  | @took result _ took held =>
    rw [took.desk, held]
    cases result with
    | ok session => simpa [Pool.leaving, Desk.countOut] using count
    | error e => simpa [Pool.leaving] using count
  | @returned place session result _ gives found returned held =>
    obtain ⟨_, -, counts⟩ := l.pool.put_counts plain session l.env
    obtain ⟨inRange, -⟩ := List.getElem?_eq_some_iff.1 found
    rw [(step_givesBack gives found).1, counts, held, List.length_eraseIdx_of_lt inRange, ← count]
    rfl
  | cleared emptying cleared held =>
    rw [cleared.desk, held]
    exact count
  | pinged pinged held =>
    rw [pinged.desk, held]
    exact count
  | pingedOn went held =>
    rw [went.desk, held]
    exact count
  | settled settled held =>
    rw [settled.desk, held]
    exact count
  | used found kept held pool =>
    rw [pool, held, List.length_set]
    exact count
  | untouched pool held =>
    rw [pool, held]
    exact count

theorem Counted.play (ops : List (Op σ)) :
    ∀ {l : Lending σ}, l.Counted → (l.play ops).Counted := by
  induction ops with
  | nil => exact id
  | cons op ops ih => exact fun counted => ih (counted.step op)

theorem play_unmarked (ops : List (Op σ)) :
    ∀ {l : Lending σ}, l.pool.Unmarked → (l.play ops).pool.Unmarked := by
  induction ops with
  | nil => exact id
  | cons op ops ih => exact fun unmarked => ih (step_unmarked op unmarked)

omit [Service σ] in
theorem start_counted (parts : PoolParts) (clock : Clock) (services : σ)
    (plain : parts.kind ≠ .transactionPinging) : (start parts clock services).Counted := by
  refine ⟨?_, parts.pool_checkedOut⟩
  obtain ⟨kind, _⟩ := parts
  cases kind with
  | transactionPinging => exact absurd rfl plain
  | _ => rfl

/-- In every run the pool counts as out just the sessions that callers hold: every one that was
handed out, until it is given back, whatever becomes of it then. None that is stored is marked as
in use, and every one that is handed out is. -/
theorem play_counts_held (parts : PoolParts) (clock : Clock) (services : σ) (ops : List (Op σ))
    (plain : parts.kind ≠ .transactionPinging) :
    let l := (start parts clock services).play ops
    l.pool.stats.checkedOut = l.held.length ∧
      (∀ session ∈ l.pool.sessions, session.inUse = false) ∧
      ∀ (timeout : Option Duration) (session : Session),
        (l.pool.get timeout l.env).1.1 = .ok session → session.inUse = true := by
  intro l
  have unmarked : (start parts clock services).pool.Unmarked := by
    intro session member
    rw [start, parts.pool_sessions] at member
    cases member
  refine ⟨?_, play_unmarked ops unmarked, fun timeout session got => ?_⟩
  · rw [l.pool.stats_checkedOut]
    exact ((start_counted parts clock services plain).play ops).counted
  · obtain ⟨heard, -, took⟩ := l.pool.get_took timeout l.env
    rw [got] at took
    exact took.marked

/-- Takes the mark off a session that is held, or puts it on. -/
def remark (inUse : Bool) : Use Fleet where
  act services session := (session.setInUse inUse, services)
  keeps _ _ := rfl

/-- Of two sessions given back to a bursty pool of one, the first was marked by its holder once
more and is stored, and the second can neither be stored nor deleted. -/
theorem play_counts_held_of_surplus :
    let parts := PoolParts.ofConfig { PoolConfig.standard with kind := .bursty, size := 1 }
    let services := Fleet.ofBackends [.reliable (.fresh none none false) 0]
    let ops : List (Op Fleet) := [.bind 0, .get none, .get none, .get none, .use 0 (remark false),
      .use 0 (remark true), .put 0,
      .outside (Fleet.onBackend 0 (·.arrange .delete (some Fleet.unreachable))), .put 0]
    let l := (start parts .running services).play ops
    parts.kind ≠ .transactionPinging ∧ l.pool.sessions.length = 1 ∧ l.held.length = 1 ∧
      l.pool.stats.checkedOut = l.held.length ∧
      ∀ session ∈ l.pool.sessions, session.inUse = false := by
  intro parts services ops l
  have plain : parts.kind ≠ .transactionPinging := nofun
  obtain ⟨counted, unmarked, -⟩ := play_counts_held parts .running services ops plain
  exact ⟨plain, by decide +kernel, by decide +kernel, counted, unmarked⟩

end Lending
end SessionPooling
