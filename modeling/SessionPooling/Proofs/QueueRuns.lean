import SessionPooling.Proofs.Filling
import SessionPooling.Proofs.KeepAlive

/-! Runs of a pool around a queue, as the queue sees them: sessions leave from the front, and
sessions come, each for a reason that the run tells. -/
namespace SessionPooling
variable {σ : Type}

namespace PingingPool

/-- Emptying a queue is taking one entry after another. -/
theorem Served.emptied (now : Instant) (desk : Desk) (size : Nat) (limit interval : Duration)
    (sequence : Nat) (entries : List PingEntry) :
    ∀ ordered, Served now ⟨desk, size, limit, interval, ⟨entries, ordered⟩, sequence⟩ []
      ⟨desk, size, limit, interval, .empty, sequence⟩ now := by
  induction entries with
  | nil => exact fun _ => .done (Int.le_refl _)
  | cons entry rest ih => exact fun ordered => .leaves rfl (ih (List.pairwise_cons.1 ordered).2)

/-- Giving back a session, when there is room for it and when there is not. -/
inductive PutIn (pool : PingingPool) (now : Instant) (session : Session) : PingingPool → Prop where
  | stored (room : pool.queue.size < pool.size) :
      PutIn pool now session
        (({ pool with desk := pool.desk.countIn } : PingingPool).shelve now
          (session.setInUse false))
  | keptOut (full : pool.size ≤ pool.queue.size) :
      PutIn pool now session { pool with desk := pool.desk.countIn }

theorem put_putIn (pool : PingingPool) (session : Session) (clock : Clock) :
    (pool.put (σ := Recorder σ) session).HearsFrom clock [] fun r _ _ =>
      pool.PutIn clock.now session r.2 := by
  refine .bind (enqueue_from (session.setInUse false) _ clock) ?_
  rintro result _ ended passes ⟨-, ⟨room, rfl⟩ | ⟨full, rfl⟩⟩
  · exact .pure (.stored room)
  · exact .pure (.keptOut full)

/-- Taking a session takes the first entry, or leaves the queue as it is. -/
theorem served_of_took {pool : PingingPool} {after : Pool} {result : Except Failure Session}
    {heard : List Exchange} (took : (Pool.pinging pool).Took result after heard) (now : Instant) :
    ∃ next, after = .pinging next ∧ Served now pool [] next now := by
  have leaves {popped : Session} {rest : Pool}
      (taken : (Pool.pinging pool).pop? = some (popped, rest)) :
      ∃ next : PingingPool, rest = .pinging next ∧
        ∀ desk, Served now pool [] { next with desk } now := by
    obtain ⟨⟨entry, queue⟩, first, same⟩ := Option.map_eq_some_iff.1 taken
    cases same
    exact ⟨_, rfl, fun desk => .leaves first (.desk desk (.done (Int.le_refl _)))⟩
  cases took with
  | exhausted => exact ⟨pool, rfl, .done (Int.le_refl _)⟩
  | created isBursty => cases isBursty
  | notCreated isBursty => cases isBursty
  | handedOut taken =>
    obtain ⟨next, rfl, served⟩ := leaves taken
    exact ⟨_, rfl, served next.desk.countOut⟩
  | lost taken =>
    obtain ⟨next, rfl, served⟩ := leaves taken
    exact ⟨next, rfl, served next.desk⟩
  | putBack => exact ⟨pool, rfl, .done (Int.le_refl _)⟩
  | crowdedOut taken =>
    obtain ⟨next, rfl, served⟩ := leaves taken
    exact ⟨next, rfl, served next.desk⟩

end PingingPool

namespace Lending
variable [Service σ]

/-- The sessions that an operation stores, in the order in which it does. -/
inductive Stores (l : Lending σ) : Op σ → List Session → Prop where
  | filled {backend template result accepted heard fresh}
      (grown : (l.step (.bind backend)).heard = l.heard ++ heard)
      (batches : Desk.Batches backend template (.poolFull l.pool.capacity)
        (l.pool.capacity - l.pool.sessions.length) 0 accepted result heard)
      (born : List.Forall₂ (Session.BornAs backend template l.env.clock
        (l.step (.bind backend)).env.clock) accepted fresh) :
      Stores l (.bind backend) fresh
  | givenBack {op place session} (gives : op.GivesBack place)
      (found : l.held[place]? = some session)
      (room : l.pool.sessions.length < l.pool.capacity) :
      Stores l op [session.setInUse false]
  | keptOut {op place} (gives : op.GivesBack place)
      (refused : l.held[place]? = none ∨ l.pool.capacity ≤ l.pool.sessions.length) :
      Stores l op []
  | refreshed {op stale fresh tended vain} (pings : op = .ping ∨ op = .pingAllDue)
      (grown : (l.step op).heard = l.heard ++ (tended ++ vain))
      (looked : l.pool.desk.Tended stale fresh tended) (inVain : l.pool.desk.InVain vain) :
      Stores l op fresh
  | taken (timeout) : Stores l (.get timeout) []
  | emptied : Stores l .clear []
  | nothingWaits : Stores l .beginPending []
  | used (place use) : Stores l (.use place use) []
  | outside (change) : Stores l (.outside change) []
  | clockMoved (change) : Stores l (.moveClock change) []

/-- The sessions that a run stores, in the order in which it does. -/
inductive Arrived : Lending σ → List (Op σ) → List Session → Prop where
  | nil {l} : Arrived l [] []
  | cons {l op ops come more} (stores : l.Stores op come) (others : (l.step op).Arrived ops more) :
      Arrived l (op :: ops) (come ++ more)

/-- What an operation does to a queue. -/
structure StepServes (l : Lending σ) (pool : PingingPool) (op : Op σ) (next : PingingPool)
    (come : List Session) (ended : Instant) : Prop where
  after : (l.step op).pool = .pinging next
  stores : l.Stores op come
  served : PingingPool.Served l.env.clock.now pool come next ended
  inTime : l.env.clock.now ≤ (l.step op).env.clock.now → ended ≤ (l.step op).env.clock.now

theorem step_serves {l : Lending σ} {pool : PingingPool} (same : l.pool = .pinging pool)
    (fits : pool.queue.size ≤ pool.size) (op : Op σ) :
    ∃ next come ended, l.StepServes pool op next come ended := by
  have untouched (stores : l.Stores op []) (unchanged : (l.step op).pool = l.pool) :
      ∃ next come ended, l.StepServes pool op next come ended :=
    ⟨pool, [], l.env.clock.now, unchanged.trans same, stores, .done (Int.le_refl _), id⟩
  have size : l.pool.sessions.length = pool.queue.size := by
    rw [same]
    exact pool.queue.length_sessions
  have capacity : l.pool.capacity = pool.size := by
    rw [same]
    rfl
  have givesBack {place : Nat} (gives : op.GivesBack place) :
      ∃ next come ended, l.StepServes pool op next come ended := by
    cases found : l.held[place]? with
    | none =>
      exact untouched (.keptOut gives (.inl found))
        (congrArg Lending.pool (step_of_nothing gives found))
    | some session =>
      obtain ⟨put, -, -⟩ := step_givesBack gives found
      rw [same] at put
      obtain ⟨_, -, -, putIn⟩ := pool.put_putIn session l.env.clock l.env rfl
      generalize ended : (pool.put session l.env).1.2 = next at putIn
      have after : (l.step op).pool = .pinging next := put.trans (congrArg Pool.pinging ended)
      cases putIn with
      | stored room =>
        refine ⟨_, _, _, after, .givenBack gives found (size ▸ capacity ▸ room), ?_, id⟩
        exact .desk pool.desk.countIn (.comes (Int.le_refl _) (.done (Int.le_refl _)))
      | keptOut full =>
        refine ⟨_, _, _, after, .keptOut gives (.inr (size ▸ capacity ▸ full)), ?_, id⟩
        exact .desk pool.desk.countIn (.done (Int.le_refl _))
  obtain ⟨env, _, held⟩ := l
  subst same
  cases op with
  | bind backend =>
    obtain ⟨heard, accepted, fresh, grown, passes, batches, inTurn⟩ :=
      pool.bind_inTurn fits backend env
    rw [← size] at batches
    refine ⟨_, fresh, _, rfl, .filled grown batches (inTurn.born passes), ?_, fun _ =>
      Int.le_refl _⟩
    exact .desk (pool.desk.bind backend) (PingingPool.served_of_inTurn inTurn)
  | get timeout =>
    obtain ⟨_, -, took⟩ := (Pool.pinging pool).get_took timeout env
    obtain ⟨next, after, served⟩ := PingingPool.served_of_took took env.clock.now
    exact ⟨next, [], _, after, .taken timeout, served, id⟩
  | put place => exact givesBack (.inl rfl)
  | release place => exact givesBack (.inr rfl)
  | clear =>
    obtain ⟨_, -, cleared, -⟩ := pool.clear_hears env
    refine ⟨_, [], env.clock.now, congrArg Pool.pinging cleared, .emptied, ?_, id⟩
    exact .emptied _ _ _ _ _ _ _ _
  | ping =>
    obtain ⟨heard, grown, passes, pinged⟩ := pool.ping_pingedFrom env.clock env rfl
    obtain ⟨stale, come, tended, vain, rfl, looked, inVain, served⟩ := pinged.served passes fits
    exact ⟨_, come, _, rfl, .refreshed (.inl rfl) grown looked inVain, served, fun _ =>
      Int.le_refl _⟩
  | pingAllDue =>
    obtain ⟨heard, grown, -, went⟩ :=
      PingingPool.pingRounds_pingedThrough pool.size 0 pool env.clock env rfl
    obtain ⟨stale, come, tended, vain, rfl, looked, inVain, served⟩ := went.served fits
    exact ⟨_, come, _, rfl, .refreshed (.inr rfl) grown looked inVain, served, fun _ =>
      Int.le_refl _⟩
  | beginPending => exact untouched .nothingWaits rfl
  | use place use =>
    apply untouched (.used place use)
    simp only [step, useBy]
    split <;> rfl
  | outside change => exact untouched (.outside change) rfl
  | moveClock change => exact untouched (.clockMoved change) rfl

/-- A pool around a queue that has its settings from some parts, stores no more than it has places,
and gives no number twice. -/
structure Queues (parts : PoolParts) (l : Lending σ) (pool : PingingPool) : Prop where
  same : l.pool = .pinging pool
  size : pool.size = parts.places
  interval : pool.pingInterval = parts.interval
  fits : pool.queue.size ≤ pool.size
  numbered : pool.Numbered

variable {parts : PoolParts}

omit [Service σ] in
theorem Queues.stocked {l : Lending σ} {pool : PingingPool} (queues : l.Queues parts pool) :
    l.pool.Stocked := by
  rw [queues.same]
  exact fun _ => queues.fits

omit [Service σ] in
theorem startAmong_queues (strangers : List Session) (clock : Clock) (services : σ)
    (pinging : parts.kind = .pinging) :
    ∃ pool, (startAmong strangers parts clock services).Queues parts pool ∧
      pool.queue.entries = [] := by
  obtain ⟨pool, same, none, interval⟩ := PoolParts.exists_pinging pinging
  have empty : pool.queue.entries = [] := congrArg PingQueue.entries none
  have size : pool.size = parts.places := by
    have capacity := parts.pool_capacity
    rw [same] at capacity
    exact capacity
  have stored : pool.queue.size = 0 := congrArg List.length empty
  have fits : pool.queue.size ≤ pool.size := Nat.le_trans (Nat.le_of_eq stored) (Nat.zero_le _)
  exact ⟨pool, ⟨same, size, interval, fits, PingingPool.numbered_of_empty empty⟩, empty⟩

theorem Queues.step {l : Lending σ} {pool : PingingPool} (queues : l.Queues parts pool)
    (op : Op σ) :
    ∃ next come ended, l.StepServes pool op next come ended ∧ (l.step op).Queues parts next := by
  have stocked := stocked_step queues.stocked op
  obtain ⟨next, come, ended, serves⟩ := step_serves queues.same queues.fits op
  obtain ⟨size, interval⟩ := serves.served.settings
  rw [serves.after] at stocked
  exact ⟨next, come, ended, serves, serves.after, size.trans queues.size,
    interval.trans queues.interval, stocked rfl, serves.served.numbered queues.numbered⟩

/-- In every run, whatever the clock shows. -/
theorem Queues.play (ops : List (Op σ)) :
    ∀ {l : Lending σ} {pool : PingingPool}, l.Queues parts pool →
      ∃ next, (l.play ops).Queues parts next := by
  induction ops with
  | nil => exact fun queues => ⟨_, queues⟩
  | cons op ops ih =>
    intro l pool queues
    obtain ⟨next, come, ended, serves, queuesNext⟩ := queues.step op
    exact ih queuesNext

theorem startAmong_play_numbered (strangers : List Session) (parts : PoolParts) (clock : Clock)
    (services : σ) (ops : List (Op σ)) :
    ((startAmong strangers parts clock services).play ops).pool.Numbered := by
  have kind := startAmong_play_kind strangers parts clock services ops
  cases same : ((startAmong strangers parts clock services).play ops).pool with
  | pinging pool =>
    rw [same] at kind
    obtain ⟨fresh, begun, -⟩ := startAmong_queues strangers clock services kind.symm
    obtain ⟨last, queues⟩ := begun.play ops
    obtain rfl := Pool.pinging.inj (same.symm.trans queues.same)
    exact queues.numbered
  | _ => trivial

/-- Whether the clock does not go back in the course of a run. -/
def GoesForward (l : Lending σ) : List (Op σ) → Prop
  | [] => True
  | op :: ops => l.env.clock.now ≤ (l.step op).env.clock.now ∧ (l.step op).GoesForward ops

instance decidableGoesForward :
    ∀ (l : Lending σ) (ops : List (Op σ)), Decidable (l.GoesForward ops)
  | _, [] => inferInstanceAs (Decidable True)
  | l, op :: ops =>
    have := decidableGoesForward (l.step op) ops
    inferInstanceAs (Decidable (_ ∧ GoesForward (l.step op) ops))

/-- In a run whose clock does not go back, those who came last are in the queue, in the order in
which they came. -/
theorem Queues.play_firstCome (ops : List (Op σ)) :
    ∀ {l : Lending σ} {pool : PingingPool}, l.Queues parts pool →
      pool.FirstCome l.env.clock.now → l.GoesForward ops →
      ∃ next arrivals, (l.play ops).Queues parts next ∧ l.Arrived ops arrivals ∧
        next.queue.sessions <:+ pool.queue.sessions ++ arrivals := by
  induction ops with
  | nil =>
    intro l pool queues firstCome _
    exact ⟨pool, [], queues, .nil, List.append_nil _ ▸ List.suffix_rfl⟩
  | cons op ops ih =>
    intro l pool queues firstCome forward
    obtain ⟨next, come, ended, serves, queuesNext⟩ := queues.step op
    obtain ⟨inLine, gone, before⟩ := serves.served.firstCome firstCome
    obtain ⟨last, arrivals, queuesLast, arrived, waitingLast⟩ :=
      ih queuesNext (inLine.later (serves.inTime forward.1)) forward.2
    refine ⟨last, come ++ arrivals, queuesLast, .cons serves.stores arrived, ?_⟩
    rw [← List.append_assoc, ← before, List.append_assoc]
    exact waitingLast.trans (List.suffix_append _ _)

end Lending
end SessionPooling
