import SessionPooling.Backend.Fleet
import SessionPooling.Proofs.RunsInStep

/-! A pool that readies transactions, among callers who give back sessions only with a transaction
that can still be used. It has nothing to ready then, and goes in step with a pool that only pings,
but for one count: a session that it refuses stays counted as being out. -/
namespace SessionPooling

/-- Desks of which the second counts some more sessions as being out. -/
structure Desk.Ahead (slack : Nat) (desk other : Desk) : Prop where
  peer : desk.Peer other
  least : desk.checkedOut ≤ other.checkedOut
  most : other.checkedOut ≤ desk.checkedOut + slack

theorem Desk.Counts.ahead (slack : Nat) : Desk.Counts (Desk.Ahead slack) where
  peer ahead := ahead.peer
  bind := by
    intro desk other ahead backend
    exact ⟨⟨ahead.peer.template, rfl⟩, ahead.least, ahead.most⟩
  countOut := by
    intro desk other ahead
    have least := ahead.least
    have most := ahead.most
    refine ⟨⟨ahead.peer.template, ahead.peer.backend⟩, ?_, ?_⟩
    · exact Nat.succ_le_succ least
    · simp only [Desk.countOut]
      omega
  countIn := by
    intro desk other ahead
    have least := ahead.least
    have most := ahead.most
    refine ⟨⟨ahead.peer.template, ahead.peer.backend⟩, ?_, ?_⟩
    · exact Nat.sub_le_sub_right least 1
    · simp only [Desk.countIn]
      omega

namespace Desk.Ahead
variable {slack more : Nat} {desk other : Desk}

theorem mono (ahead : desk.Ahead slack other) (le : slack ≤ more) : desk.Ahead more other :=
  ⟨ahead.peer, ahead.least, Nat.le_trans ahead.most (Nat.add_le_add_left le _)⟩

/-- A session that only the first desk counts in. -/
theorem countIn_left (ahead : desk.Ahead slack other) : desk.countIn.Ahead (slack + 1) other := by
  have least := ahead.least
  have most := ahead.most
  refine ⟨⟨ahead.peer.template, ahead.peer.backend⟩, ?_, ?_⟩
  · exact Nat.le_trans (Nat.sub_le _ 1) least
  · simp only [countIn]
    omega

end Desk.Ahead

variable {σ : Type} [Service σ]

namespace TransactionPingingPool

/-! Where nothing waits, the queue does all the work. -/

theorem bind_nil (inner : PingingPool) (backend : BackendId) :
    (⟨inner, []⟩ : TransactionPingingPool).bind (σ := σ) backend =
      inner.bind backend >>= fun done => pure (done.1, ⟨done.2, []⟩) := by
  funext env
  simp only [bind, PingingPool.bind, List.length_nil]
  rcases bound : inner.bindReserving backend 0 env with ⟨⟨result, filled⟩, after⟩
  cases result with
  | error e =>
    simp only [Bind.bind, StateT.bind, bound]
  | ok done =>
    simp only [Bind.bind, StateT.bind, bound]
    rfl

theorem clear_nil (inner : PingingPool) :
    (⟨inner, []⟩ : TransactionPingingPool).clear (σ := σ) =
      inner.clear >>= fun done => pure (done.1, ⟨done.2, []⟩) := by
  funext env
  rcases cleared : inner.clear env with ⟨⟨result, left⟩, after⟩
  cases result with
  | error e =>
    simp only [clear, Bind.bind, StateT.bind, cleared]
    rfl
  | ok done =>
    simp only [clear, Bind.bind, StateT.bind, cleared]
    rfl

omit [Service σ] in
theorem put_nil (inner : PingingPool) {session : Session}
    (ready : needsTransaction session = false) :
    (⟨inner, []⟩ : TransactionPingingPool).put (σ := σ) session =
      if inner.size ≤ inner.queue.size then pure (.error (.poolFull inner.size), ⟨inner, []⟩)
      else inner.put session >>= fun done => pure (done.1, ⟨done.2, []⟩) := by
  simp only [put, ready, List.length_nil, Nat.add_zero, Bool.false_eq_true, if_false]

end TransactionPingingPool

/-- A pool around a queue, and one that readies transactions around the same queue, where none
waits. -/
inductive Pool.Mirrored (slack : Nat) : Pool → Pool → Prop where
  | mirror {pool other : PingingPool} (twin : pool.Twin (Desk.Ahead slack) other) :
      Mirrored slack (.pinging pool) (.transactionPinging ⟨other, []⟩)

/-- The same services, beside a clock that is set by hand. -/
def Clock.Still {σ : Type} (clock : Clock) (services others : σ) : Prop :=
  clock.runs = false ∧ services = others

theorem Clock.tellsAlike_still : TellsAlike (σ := σ) Clock.Still where
  role := by
    rintro clock services _ ⟨-, rfl⟩ backend
    rfl
  answer := by
    rintro clock services _ ⟨still, rfl⟩ backend request
    exact ⟨.refl _ _, still, rfl⟩
  waits := by
    rintro clock services _ ⟨still, rfl⟩ d
    rw [Clock.wait_of_not_runs still]
    exact ⟨still, rfl⟩

namespace Pool.Mirrored
variable {slack more : Nat} {pool other : Pool} {R : Clock → σ → σ → Prop} {α : Type}

omit [Service σ] in
theorem mono (mirrored : pool.Mirrored slack other) (le : slack ≤ more) :
    pool.Mirrored more other := by
  obtain ⟨⟨ahead⟩⟩ := mirrored
  exact ⟨.withDesk (ahead.mono le)⟩

omit [Service σ] in
/-- The same work on both queues. -/
theorem inStep {work work' : Act σ (α × PingingPool)}
    (inStep : work.InStep R work' (Both (PingingPool.Twin (Desk.Ahead slack)))) :
    (work >>= fun done => pure (done.1, Pool.pinging done.2)).InStep R
      (work' >>= fun done =>
        (pure (done.1, ⟨done.2, []⟩) : Act σ (α × TransactionPingingPool)) >>= fun done =>
          pure (done.1, Pool.transactionPinging done.2)) (Both (Mirrored slack)) := by
  refine .bind inStep ?_
  rintro ⟨result, next⟩ ⟨_, next'⟩ ⟨rfl, twin⟩
  exact .pure ⟨rfl, ⟨twin⟩⟩

end Pool.Mirrored

namespace Pool

variable {slack : Nat} {R : Clock → Recorder σ → Recorder σ → Prop}

theorem goAlong_mirrored (tells : TellsAlike R) (slack : Nat) :
    Lending.GoAlong R (Mirrored slack) where
  bind := by
    rintro _ _ ⟨twin⟩ backend
    simp only [Pool.bind, TransactionPingingPool.bind_nil]
    exact Mirrored.inStep (PingingPool.bindReserving_inStep tells (.ahead slack) twin backend 0)
  get := by
    rintro _ _ ⟨@⟨desk, ahead⟩⟩ timeout
    refine .bind (.wait tells _) fun _ _ _ => ?_
    exact Mirrored.inStep (PingingPool.get_inStep tells (.ahead slack) (.withDesk ahead) timeout)
  clear := by
    rintro _ _ ⟨twin⟩
    simp only [Pool.clear, TransactionPingingPool.clear_nil]
    exact Mirrored.inStep (PingingPool.clear_inStep tells twin)
  ping := by
    rintro _ _ ⟨twin⟩
    exact Mirrored.inStep (PingingPool.ping_inStep tells (.ahead slack) twin)
  pingAllDue := by
    rintro _ _ ⟨twin⟩
    exact Mirrored.inStep (PingingPool.pingAllDue_inStep tells (.ahead slack) twin)
  beginPending := by
    rintro _ _ ⟨twin⟩
    exact .pure ⟨rfl, ⟨twin⟩⟩

theorem put_inStep_of_room (tells : TellsAlike R) {pool other : PingingPool} {session : Session}
    (twin : pool.Twin (Desk.Ahead slack) other)
    (ready : TransactionPingingPool.needsTransaction session = false)
    (room : ¬ pool.size ≤ pool.queue.size) :
    ((Pool.pinging pool).put session).InStep R
      ((Pool.transactionPinging ⟨other, []⟩).put session) (Both (Mirrored slack)) := by
  have given := PingingPool.put_inStep tells (.ahead slack) twin session
  obtain ⟨ahead⟩ := twin
  simp only [Pool.put, TransactionPingingPool.put_nil _ ready, room, if_false]
  exact Mirrored.inStep given

/-- A session that both refuse is counted in by the first alone. -/
theorem put_refused {pool other : PingingPool} {session : Session} {env env' : Env σ}
    (twin : pool.Twin (Desk.Ahead slack) other)
    (ready : TransactionPingingPool.needsTransaction session = false)
    (full : pool.size ≤ pool.queue.size) (still : env.clock.runs = false) :
    (Pool.pinging pool).put session env =
        ((.error (.poolFull pool.size),
          .pinging { pool with desk := pool.desk.countIn }), env) ∧
      (Pool.transactionPinging ⟨other, []⟩).put session env' =
        ((.error (.poolFull pool.size), .transactionPinging ⟨other, []⟩), env') := by
  obtain ⟨ahead⟩ := twin
  constructor
  · have looked := Act.now_of_not_runs still
    simp only [Pool.put, PingingPool.put, PingingPool.enqueue, Bind.bind, StateT.bind, looked]
    simp only [PingingPool.enqueueAt, full, if_true]
    rfl
  · simp only [Pool.put, TransactionPingingPool.put_nil _ ready, full, if_true]
    rfl

end Pool

namespace Lending

/-- Attaching a fresh transaction to a session, if it has been created. -/
def Use.readied : Use σ where
  act services session :=
    match session.newTransaction with
    | .ok session => (session, services)
    | .error _ => (session, services)
  keeps services session := by
    obtain ⟨_, _, creation, _, _, _⟩ := session
    cases creation with
    | none => rfl
    | some creation => rfl

/-- Whether what an operation gives back has a transaction that can still be used. -/
def givesOpen (l : Lending σ) : Op σ → Bool
  | .put place | .release place =>
    match l.held[place]? with
    | none => true
    | some session => !TransactionPingingPool.needsTransaction session
  | _ => true

/-- Whether all that a run gives back has a transaction that can still be used. -/
def givesAllOpen (l : Lending σ) : List (Op σ) → Bool
  | [] => true
  | op :: ops => l.givesOpen op && (l.step op).givesAllOpen ops

/-- Counts one session for a giving back that failed. -/
def inVain : Except Failure Unit → Nat
  | .ok _ => 0
  | .error _ => 1

/-- How many sessions an operation gives back in vain. -/
def refused (l : Lending σ) : Op σ → Nat
  | .put place | .release place =>
    match l.held[place]? with
    | none => 0
    | some session => inVain (l.pool.put session l.env).1.1
  | _ => 0

/-- How many sessions a run gives back in vain. -/
def refusals (l : Lending σ) : List (Op σ) → Nat
  | [] => 0
  | op :: ops => l.refused op + (l.step op).refusals ops

/-- A clock that is set by hand is not made to run. -/
def Op.ByHand : Op σ → Prop
  | .moveClock change => ∀ clock, clock.runs = false → (change clock).runs = false
  | _ => True

omit [Service σ] in
theorem Op.ByHand.fair {op : Op σ} (byHand : op.ByHand) : op.Fair Clock.Still := by
  cases op with
  | use place handling =>
    rintro clock recorder _ ⟨still, rfl⟩ session
    exact ⟨rfl, still, rfl⟩
  | outside change =>
    rintro clock recorder _ ⟨still, rfl⟩
    exact ⟨still, rfl⟩
  | moveClock change =>
    rintro clock recorder _ ⟨still, rfl⟩
    exact ⟨byHand clock still, rfl⟩
  | _ => trivial

theorem refused_eq {l : Lending σ} {op : Op σ} {place : Nat} {session : Session}
    (gives : op.GivesBack place) (found : l.held[place]? = some session) :
    l.refused op = inVain (l.pool.put session l.env).1.1 := by
  rcases gives with rfl | rfl
  · simp only [refused, found]
  · simp only [refused, found]

omit [Service σ] in
theorem needsNone_of_givesOpen {l : Lending σ} {op : Op σ} {place : Nat} {session : Session}
    (opened : l.givesOpen op = true) (gives : op.GivesBack place)
    (found : l.held[place]? = some session) :
    TransactionPingingPool.needsTransaction session = false := by
  rcases gives with rfl | rfl
  · simpa [givesOpen, found] using opened
  · simpa [givesOpen, found] using opened

/-- Giving back a session whose transaction can still be used. -/
theorem put_mirrored {pool other : Pool} {slack : Nat} {env env' : Env (Recorder σ)}
    {session : Session} (mirrored : pool.Mirrored slack other) (alike : env.Alike Clock.Still env')
    (ready : TransactionPingingPool.needsTransaction session = false) :
    Both (Pool.Mirrored (slack + inVain (pool.put session env).1.1)) (pool.put session env).1
        (other.put session env').1 ∧
      (pool.put session env).2.Alike Clock.Still (other.put session env').2 := by
  obtain @⟨pool, other, twin⟩ := mirrored
  by_cases full : pool.size ≤ pool.queue.size
  · obtain ⟨alone, wrapped⟩ := Pool.put_refused twin ready full alike.service.1
    rw [alone, wrapped]
    obtain ⟨ahead⟩ := twin
    exact ⟨⟨rfl, ⟨.withDesk ahead.countIn_left⟩⟩, alike⟩
  · have tells := Clock.tellsAlike_still (σ := Recorder σ)
    have given := Pool.put_inStep_of_room tells twin ready full
    obtain ⟨⟨answer, next⟩, surroundings⟩ := given env env' alike
    exact ⟨⟨answer, next.mono (Nat.le_add_right _ _)⟩, surroundings⟩

theorem Alike.step_mirrored {l other : Lending σ} {slack : Nat}
    (alike : l.Alike Clock.Still (Pool.Mirrored slack) other) (op : Op σ) (byHand : op.ByHand)
    (opened : l.givesOpen op = true) :
    l.reply op = other.reply op ∧
      (l.step op).Alike Clock.Still (Pool.Mirrored (slack + l.refused op)) (other.step op) := by
  have goes := Pool.goAlong_mirrored (Clock.tellsAlike_still (σ := Recorder σ)) slack
  refine alike.step goes ?_ op byHand.fair ?_
  · exact fun mirrored => mirrored.mono (Nat.le_add_right _ _)
  · intro place session gives found
    rw [refused_eq gives found]
    exact put_mirrored alike.pool alike.env (needsNone_of_givesOpen opened gives found)

theorem Alike.play_mirrored (ops : List (Op σ)) :
    ∀ {l other : Lending σ} {slack : Nat}, l.Alike Clock.Still (Pool.Mirrored slack) other →
      (∀ op ∈ ops, op.ByHand) → l.givesAllOpen ops = true →
      l.replies ops = other.replies ops ∧
        (l.play ops).Alike Clock.Still (Pool.Mirrored (slack + l.refusals ops))
          (other.play ops) := by
  induction ops with
  | nil => exact fun alike _ _ => ⟨rfl, alike⟩
  | cons op ops ih =>
    intro l other slack alike byHand opened
    simp only [givesAllOpen, Bool.and_eq_true] at opened
    obtain ⟨answer, next⟩ := alike.step_mirrored op (byHand op List.mem_cons_self) opened.1
    obtain ⟨answers, final⟩ := ih next (fun op member => byHand op (List.mem_cons_of_mem _ member))
      opened.2
    rw [Nat.add_assoc] at final
    exact ⟨congrArg₂ List.cons answer answers, final⟩

/-- Among callers who give back sessions only with a transaction that can still be used, a pool
that readies transactions goes in step with one that only pings and is otherwise the same: it
answers the same, asks the services for the same, stores the same sessions in the same order with
the same due times, and nothing waits in it. Only of sessions that were refused it may count each
as still being out. -/
theorem play_mirrors (strangers : List Session) (parts : PoolParts) (clock : Clock)
    (services : σ) (ops : List (Op σ)) (still : clock.runs = false)
    (byHand : ∀ op ∈ ops, op.ByHand)
    (opened : (startAmong strangers { parts with kind := .pinging } clock services).givesAllOpen
      ops = true) :
    let alone := startAmong strangers { parts with kind := .pinging } clock services
    let wrapped := startAmong strangers { parts with kind := .transactionPinging } clock services
    alone.replies ops = wrapped.replies ops ∧
      (alone.play ops).held = (wrapped.play ops).held ∧
      (alone.play ops).env.clock = (wrapped.play ops).env.clock ∧
      (alone.play ops).env.service = (wrapped.play ops).env.service ∧
      ∃ pool other, (alone.play ops).pool = .pinging pool ∧
        (wrapped.play ops).pool = .transactionPinging ⟨other, []⟩ ∧
        { pool with desk := other.desk } = other ∧
        pool.desk.backend = other.desk.backend ∧
        pool.desk.template = other.desk.template ∧
        pool.stats.checkedOut ≤ other.stats.checkedOut ∧
        other.stats.checkedOut ≤ pool.stats.checkedOut + alone.refusals ops := by
  intro alone wrapped
  have begun : alone.Alike Clock.Still (Pool.Mirrored 0) wrapped :=
    ⟨⟨rfl, still, rfl⟩, ⟨.withDesk ⟨⟨rfl, rfl⟩, Nat.le_refl _, Nat.le_refl _⟩⟩, rfl⟩
  obtain ⟨answers, ended⟩ := begun.play_mirrored ops byHand opened
  refine ⟨answers, ended.held, ended.env.clock, ended.env.service.2, ?_⟩
  obtain ⟨pool, other, left, right, twin⟩ : ∃ pool other, (alone.play ops).pool = .pinging pool ∧
      (wrapped.play ops).pool = .transactionPinging ⟨other, []⟩ ∧
      pool.Twin (Desk.Ahead (0 + alone.refusals ops)) other := by
    have mirrored := ended.pool
    generalize (alone.play ops).pool = left at mirrored
    generalize (wrapped.play ops).pool = right at mirrored
    obtain @⟨pool, other, twin⟩ := mirrored
    exact ⟨pool, other, rfl, rfl, twin⟩
  obtain ⟨ahead⟩ := twin
  rw [Nat.zero_add] at ahead
  exact ⟨pool, _, left, right, rfl, ahead.peer.backend, ahead.peer.template, ahead.least,
    ahead.most⟩

/-- A session that comes back with a fresh transaction is pinged later. -/
theorem play_mirrors_of_readied :
    let parts := PoolParts.ofConfig { PoolConfig.standard with size := 2 }
    let clock := Clock.startingAt ⟨0, by decide⟩
    let services := Fleet.ofBackends [.reliable (.fresh none none false) 0]
    let ops : List (Op Fleet) := [.bind 0, .get none, .use 0 .readied, .put 0,
      .moveClock (·.advance (.ofSeconds 86400)), .pingAllDue]
    let alone := startAmong [] { parts with kind := .pinging } clock services
    let wrapped := startAmong [] { parts with kind := .transactionPinging } clock services
    (clock.runs = false ∧ (∀ op ∈ ops, op.ByHand) ∧ alone.givesAllOpen ops = true) ∧
      alone.replies ops = wrapped.replies ops ∧
      (wrapped.play ops).pool.stats.available = 2 := by
  intro parts clock services ops alone wrapped
  have byHand : ∀ op ∈ ops, op.ByHand := by
    intro op member
    simp only [ops, List.mem_cons, List.not_mem_nil, or_false] at member
    rcases member with rfl | rfl | rfl | rfl | rfl | rfl
    · trivial
    · trivial
    · trivial
    · trivial
    · exact fun clock still => still
    · trivial
  have opened : alone.givesAllOpen ops = true := by
    decide +kernel
  have stored : (wrapped.play ops).pool.stats.available = 2 := by
    decide +kernel
  have mirrors := play_mirrors [] parts clock services ops rfl byHand opened
  exact ⟨⟨rfl, byHand, opened⟩, mirrors.1, stored⟩

/-- When a pool that was filled again meanwhile refuses a session, only the pool that readies
transactions goes on counting it as being out. -/
theorem refused_stays_out :
    let parts := PoolParts.ofConfig { PoolConfig.standard with size := 1 }
    let clock := Clock.startingAt ⟨0, by decide⟩
    let services := Fleet.ofBackends [.reliable (.fresh none none false) 0]
    let ops : List (Op Fleet) := [.bind 0, .get none, .bind 0, .use 0 .readied, .put 0]
    let alone := startAmong [] { parts with kind := .pinging } clock services
    let wrapped := startAmong [] { parts with kind := .transactionPinging } clock services
    alone.givesAllOpen ops = true ∧ alone.refusals ops = 1 ∧
      (alone.play ops).pool.stats.checkedOut = 0 ∧
      (wrapped.play ops).pool.stats.checkedOut = 1 := by
  decide +kernel

end Lending
end SessionPooling
