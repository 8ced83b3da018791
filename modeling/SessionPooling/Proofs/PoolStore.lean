import SessionPooling.Pool.Basic
import SessionPooling.Proofs.Timing

/-! The stores of the four kinds of pools behind one view: the session that would be taken
first, and a pool as it is without it. -/
namespace SessionPooling

theorem FixedPool.push_byClock {σ : Type} (session : Session) (pool : FixedPool) :
    (pure (pool.push session) : Act σ (Except Failure FixedPool)).ByClock :=
  .pure _

namespace PingingPool

theorem enqueue_byClock {σ : Type} (session : Session) (pool : PingingPool) :
    (enqueue (σ := σ) session pool).ByClock :=
  .bind .now fun _ => .pure _

def shelve (now : Instant) (session : Session) (pool : PingingPool) : PingingPool :=
  let entry := ⟨now.after pool.pingInterval, pool.nextSequence, session⟩
  { pool with queue := pool.queue.insert entry, nextSequence := pool.nextSequence + 1 }

inductive Enqueued (pool : PingingPool) (session : Session) :
    Except Failure PingingPool → Prop where
  | stored (now : Instant) (room : pool.queue.size < pool.size) :
      Enqueued pool session (.ok (pool.shelve now session))
  | refused (full : pool.size ≤ pool.queue.size) :
      Enqueued pool session (.error (.poolFull pool.size))

theorem enqueue_enqueued {σ : Type} (session : Session) (pool : PingingPool) :
    (enqueue (σ := Recorder σ) session pool).Hears fun result heard =>
      heard = [] ∧ pool.Enqueued session result := by
  refine .silently (fun _ => rfl) fun now => .pure ⟨rfl, ?_⟩
  unfold enqueueAt
  split
  next full => exact .refused full
  next room => exact .stored now (Nat.lt_of_not_le room)

end PingingPool

namespace PingQueue

theorem insertPingEntry_perm (entry : PingEntry) (entries : List PingEntry) :
    (insertPingEntry entry entries).Perm (entry :: entries) := by
  induction entries with
  | nil => exact .refl _
  | cons head rest ih =>
    unfold insertPingEntry
    split
    · exact .refl _
    · exact (ih.cons head).trans (.swap entry head rest)

theorem sessions_insert (queue : PingQueue) (entry : PingEntry) :
    (queue.insert entry).sessions.Perm (entry.session :: queue.sessions) :=
  (insertPingEntry_perm entry queue.entries).map _

theorem size_insert (queue : PingQueue) (entry : PingEntry) :
    (queue.insert entry).size = queue.size + 1 :=
  (insertPingEntry_perm entry queue.entries).length_eq

section
variable {queue rest : PingQueue} {entry : PingEntry}

theorem entries_of_pop? (popped : queue.pop? = some (entry, rest)) :
    queue.entries = entry :: rest.entries := by
  obtain ⟨entries, ordered⟩ := queue
  cases entries with
  | nil => simp [PingQueue.pop?] at popped
  | cons head tail =>
    simp only [PingQueue.pop?, Option.some.injEq, Prod.mk.injEq] at popped
    obtain ⟨rfl, rfl⟩ := popped
    rfl

theorem sessions_of_pop? (popped : queue.pop? = some (entry, rest)) :
    queue.sessions = entry.session :: rest.sessions :=
  congrArg (List.map PingEntry.session) (entries_of_pop? popped)

theorem nextDue?_of_pop? (popped : queue.pop? = some (entry, rest)) :
    queue.nextDue? = some entry.due := by
  rw [nextDue?, entries_of_pop? popped]
  rfl

end

@[simp] theorem length_sessions (queue : PingQueue) : queue.sessions.length = queue.size :=
  List.length_map _

end PingQueue

namespace Pool

/-- Whether a pool keeps to its capacity. A bursty pool creates sessions when it runs out. -/
def bounded : Pool → Bool
  | bursty _ => false
  | _ => true

def capacity (pool : Pool) : Nat := pool.stats.capacity

def mapDesk (change : Desk → Desk) : Pool → Pool
  | fixed pool => fixed { pool with desk := change pool.desk }
  | bursty pool => bursty { pool with desk := change pool.desk }
  | pinging pool => pinging { pool with desk := change pool.desk }
  | transactionPinging pool =>
    transactionPinging { pool with inner := { pool.inner with desk := change pool.inner.desk } }

/-- Takes the session that is to leave first, and leaves the count of sessions as it is. -/
def pop? : Pool → Option (Session × Pool)
  | fixed pool =>
    match pool.stored with
    | [] => none
    | session :: rest => some (session, fixed { pool with stored := rest })
  | bursty pool =>
    match pool.stored with
    | [] => none
    | session :: rest => some (session, bursty { pool with stored := rest })
  | pinging pool =>
    pool.queue.pop?.map fun (entry, queue) => (entry.session, pinging { pool with queue })
  | transactionPinging pool =>
    pool.inner.queue.pop?.map fun (entry, queue) =>
      (entry.session, transactionPinging { pool with inner := { pool.inner with queue } })

def shelve (now : Instant) (session : Session) : Pool → Pool
  | fixed pool => fixed { pool with stored := session :: pool.stored }
  | bursty pool => bursty { pool with stored := session :: pool.stored }
  | pinging pool => pinging (pool.shelve now session)
  | transactionPinging pool =>
    transactionPinging { pool with inner := pool.inner.shelve now session }

/-- The sessions that wait beside the queue. -/
def waiting : Pool → List Session
  | transactionPinging pool => pool.pending
  | _ => []

/-- A pool that has room for all that it stores, and somewhere to create sessions. Nothing is
lost then but what cannot be replaced. -/
structure Ready (pool : Pool) : Prop where
  fits : pool.sessions.length ≤ pool.capacity
  bound : pool.desk.backend ≠ none

/-- A pool that keeps to its capacity has no more sessions to take than that. -/
def Stocked (pool : Pool) : Prop := pool.bounded → pool.stats.available ≤ pool.capacity

/-- A pool that only stores other sessions, or counts them otherwise. -/
structure Kin (before after : Pool) : Prop where
  capacity : after.capacity = before.capacity
  bounded : after.bounded = before.bounded

/-- What taking a session from the store leaves. -/
structure Popped (pool : Pool) (popped : Session) (rest : Pool) : Prop where
  sessions : pool.sessions = popped :: rest.sessions
  waiting : rest.waiting = pool.waiting
  desk : rest.desk = pool.desk
  kin : pool.Kin rest

@[simp] theorem sessions_mapDesk (change : Desk → Desk) (pool : Pool) :
    (pool.mapDesk change).sessions = pool.sessions := by
  cases pool <;> rfl

@[simp] theorem desk_mapDesk (change : Desk → Desk) (pool : Pool) :
    (pool.mapDesk change).desk = change pool.desk := by
  cases pool <;> rfl

theorem Kin.refl (pool : Pool) : pool.Kin pool := ⟨rfl, rfl⟩

theorem Kin.trans {before mid after : Pool} (first : before.Kin mid) (second : mid.Kin after) :
    before.Kin after :=
  ⟨second.capacity.trans first.capacity, second.bounded.trans first.bounded⟩

theorem kin_mapDesk (change : Desk → Desk) (pool : Pool) : pool.Kin (pool.mapDesk change) := by
  cases pool <;> exact ⟨rfl, rfl⟩

theorem popped_of_pop? {pool rest : Pool} {popped : Session}
    (taken : pool.pop? = some (popped, rest)) : pool.Popped popped rest := by
  cases pool with
  | fixed pool =>
    obtain ⟨desk, size, defaultTimeout, maxAge, stored⟩ := pool
    cases stored with
    | nil => cases taken
    | cons session more => cases taken; exact ⟨rfl, rfl, rfl, rfl, rfl⟩
  | bursty pool =>
    obtain ⟨desk, targetSize, stored⟩ := pool
    cases stored with
    | nil => cases taken
    | cons session more => cases taken; exact ⟨rfl, rfl, rfl, rfl, rfl⟩
  | pinging pool =>
    obtain ⟨⟨entry, queue⟩, first, same⟩ := Option.map_eq_some_iff.1 taken
    cases same
    exact ⟨PingQueue.sessions_of_pop? first, rfl, rfl, rfl, rfl⟩
  | transactionPinging pool =>
    obtain ⟨⟨entry, queue⟩, first, same⟩ := Option.map_eq_some_iff.1 taken
    cases same
    exact ⟨congrArg (· ++ pool.pending) (PingQueue.sessions_of_pop? first), rfl, rfl, rfl, rfl⟩

theorem sessions_shelve (now : Instant) (session : Session) (pool : Pool) :
    (pool.shelve now session).sessions.Perm (session :: pool.sessions) := by
  cases pool with
  | fixed pool => exact .refl _
  | bursty pool => exact .refl _
  | pinging pool => exact pool.queue.sessions_insert _
  | transactionPinging pool => exact (pool.inner.queue.sessions_insert _).append_right pool.pending

@[simp] theorem desk_shelve (now : Instant) (session : Session) (pool : Pool) :
    (pool.shelve now session).desk = pool.desk := by
  cases pool <;> rfl

theorem kin_shelve (now : Instant) (session : Session) (pool : Pool) :
    pool.Kin (pool.shelve now session) := by
  cases pool <;> exact ⟨rfl, rfl⟩

theorem length_sessions (pool : Pool) :
    pool.sessions.length = pool.stats.available + pool.waiting.length := by
  cases pool with
  | fixed pool => rfl
  | bursty pool => rfl
  | pinging pool => exact pool.queue.length_sessions
  | transactionPinging pool =>
    simp [sessions, stats, TransactionPingingPool.stats, PingingPool.stats, waiting]

theorem available_le_sessions (pool : Pool) : pool.stats.available ≤ pool.sessions.length := by
  rw [length_sessions]
  exact Nat.le_add_right _ _

theorem Ready.stocked {pool : Pool} (ready : pool.Ready) : pool.Stocked :=
  fun _ => Nat.le_trans pool.available_le_sessions ready.fits

@[simp] theorem available_mapDesk (change : Desk → Desk) (pool : Pool) :
    (pool.mapDesk change).stats.available = pool.stats.available := by
  cases pool <;> rfl

@[simp] theorem available_shelve (now : Instant) (session : Session) (pool : Pool) :
    (pool.shelve now session).stats.available = pool.stats.available + 1 := by
  cases pool with
  | fixed pool => rfl
  | bursty pool => rfl
  | pinging pool => exact pool.queue.size_insert _
  | transactionPinging pool => exact pool.inner.queue.size_insert _

/-- A session that is taken was one of those that could be taken. -/
theorem available_of_pop? {pool rest : Pool} {popped : Session}
    (taken : pool.pop? = some (popped, rest)) :
    pool.stats.available = rest.stats.available + 1 := by
  have left := popped_of_pop? taken
  have sessions := congrArg List.length left.sessions
  rw [List.length_cons, length_sessions, length_sessions, left.waiting] at sessions
  omega

theorem stats_checkedOut (pool : Pool) : pool.stats.checkedOut = pool.desk.checkedOut := by
  cases pool <;> rfl

/-- The two kinds of pools around a queue. -/
inductive Around : (PingingPool → Pool) → Prop where
  | alone : Around pinging
  | waiting (pending : List Session) : Around fun inner => transactionPinging ⟨inner, pending⟩

namespace Around
variable {wrap : PingingPool → Pool}

theorem pop? (around : Around wrap) (inner : PingingPool) :
    (wrap inner).pop? = inner.queue.pop?.map fun (entry, queue) =>
      (entry.session, wrap { inner with queue }) := by
  cases around <;> rfl

theorem pop?_of_popped (around : Around wrap) {inner : PingingPool} {entry : PingEntry}
    {queue : PingQueue} (popped : inner.queue.pop? = some (entry, queue)) :
    (wrap inner).pop? = some (entry.session, wrap { inner with queue }) := by
  rw [around.pop?, popped]
  rfl

theorem desk (around : Around wrap) (inner : PingingPool) : (wrap inner).desk = inner.desk := by
  cases around <;> rfl

theorem mapDesk (around : Around wrap) (inner : PingingPool) (change : Desk → Desk) :
    (wrap inner).mapDesk change = wrap { inner with desk := change inner.desk } := by
  cases around <;> rfl

theorem capacity (around : Around wrap) (inner : PingingPool) :
    (wrap inner).capacity = inner.size := by
  cases around <;> rfl

theorem available (around : Around wrap) (inner : PingingPool) :
    (wrap inner).stats.available = inner.queue.size := by
  cases around <;> rfl

theorem bounded (around : Around wrap) (inner : PingingPool) : (wrap inner).bounded := by
  cases around <;> rfl

theorem shelve (around : Around wrap) (inner : PingingPool) (now : Instant) (session : Session) :
    (wrap inner).shelve now session = wrap (inner.shelve now session) := by
  cases around <;> rfl

/-- The sessions of the queue, and those that wait besides. -/
theorem exists_waiting (around : Around wrap) :
    ∃ waiting, ∀ inner, (wrap inner).sessions = inner.queue.sessions ++ waiting := by
  cases around with
  | alone => exact ⟨[], fun _ => (List.append_nil _).symm⟩
  | waiting pending => exact ⟨pending, fun _ => rfl⟩

theorem size_le (around : Around wrap) (inner : PingingPool) :
    inner.queue.size ≤ (wrap inner).sessions.length := by
  obtain ⟨waiting, sessions⟩ := around.exists_waiting
  rw [sessions, List.length_append, PingQueue.length_sessions]
  exact Nat.le_add_right _ _

end Around
end Pool
end SessionPooling
