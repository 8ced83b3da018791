import SessionPooling.Proofs.Capacity
import SessionPooling.Proofs.QueueLine

/-! The second queue of a pool that readies transactions. Both queues together keep within the
size of the pool in every run, so flushing the second into the first never fails: every session
that waits gets its place, in the order in which they came, and a filling that succeeds leaves
nothing waiting and no place empty. -/
namespace SessionPooling
variable {σ : Type}

namespace PingQueue

theorem sublist_insertPingEntry (entry : PingEntry) (entries : List PingEntry) :
    entries.Sublist (insertPingEntry entry entries) := by
  induction entries with
  | nil => exact List.nil_sublist _
  | cons head rest ih =>
    unfold insertPingEntry
    split
    · exact List.sublist_cons_self entry _
    · exact ih.cons_cons head

/-- An entry is put behind all those that come before it. -/
theorem append_sublist_insertPingEntry {entry : PingEntry} {earlier entries : List PingEntry}
    (ordered : InPingOrder entries) (stored : earlier.Sublist entries)
    (first : ∀ e ∈ earlier, ¬ entry.NotAfter e) :
    (earlier ++ [entry]).Sublist (insertPingEntry entry entries) := by
  induction entries generalizing earlier with
  | nil =>
    obtain rfl := List.sublist_nil.1 stored
    exact .refl _
  | cons head rest ih =>
    obtain ⟨least, tail⟩ := List.pairwise_cons.1 ordered
    unfold insertPingEntry
    split
    case isTrue before =>
      -- Nothing in the queue comes before the entry.
      have none : earlier = [] := by
        refine List.eq_nil_iff_forall_not_mem.2 fun e member => first e member ?_
        obtain rfl | later := List.mem_cons.1 (stored.subset member)
        · exact before
        · exact before.trans (least e later)
      rw [none]
      exact (List.nil_sublist _).cons_cons entry
    case isFalse =>
      cases stored with
      | cons _ stored => exact (ih tail stored first).cons head
      | cons_cons _ stored =>
        exact (ih tail stored fun e member => first e (List.mem_cons_of_mem head member)).cons_cons
          head

def insertAll (queue : PingQueue) (entries : List PingEntry) : PingQueue :=
  entries.foldl insert queue

section
variable {queue : PingQueue} {entry : PingEntry} {entries : List PingEntry}

theorem insertAll_perm (queue : PingQueue) (entries : List PingEntry) :
    (queue.insertAll entries).entries.Perm (entries ++ queue.entries) := by
  induction entries generalizing queue with
  | nil => exact .refl _
  | cons entry rest ih =>
    refine (ih (queue.insert entry)).trans ?_
    exact ((insertPingEntry_perm entry queue.entries).append_left rest).trans List.perm_middle

theorem sublist_insertAll (queue : PingQueue) (entries : List PingEntry) :
    queue.entries.Sublist (queue.insertAll entries).entries := by
  induction entries generalizing queue with
  | nil => exact .refl _
  | cons entry rest ih => exact (sublist_insertPingEntry entry _).trans (ih (queue.insert entry))

/-- Entries that come one after another stand in a queue like that. -/
theorem append_sublist_insertAll (earlier : List PingEntry)
    (inOrder : (earlier ++ entries).Pairwise fun a b => ¬ b.NotAfter a)
    (stored : earlier.Sublist queue.entries) :
    (earlier ++ entries).Sublist (queue.insertAll entries).entries := by
  induction entries generalizing queue earlier with
  | nil => exact (List.append_nil earlier).symm ▸ stored
  | cons entry rest ih =>
    rw [List.append_cons] at inOrder ⊢
    have upTo := (List.pairwise_append.1 inOrder).1
    have first : ∀ e ∈ earlier, ¬ entry.NotAfter e := fun e member =>
      (List.pairwise_append.1 upTo).2.2 e member entry List.mem_cons_self
    exact ih (earlier ++ [entry]) inOrder
      (append_sublist_insertPingEntry queue.ordered stored first)

end
end PingQueue

namespace PingingPool

/-- A pool after it stored entries, which got its next numbers. -/
def takeIn (pool : PingingPool) (entries : List PingEntry) : PingingPool :=
  { pool with
    queue := pool.queue.insertAll entries
    nextSequence := pool.nextSequence + entries.length }

/-- The entries of sessions that are stored one after another, with a look at the clock for
each. -/
inductive Arrivals (interval : Duration) :
    (sequence : Nat) → Clock → List Session → List PingEntry → Clock → Prop where
  | nil {sequence clock} : Arrivals interval sequence clock [] [] clock
  | cons {sequence clock session rest entries final}
      (others : Arrivals interval (sequence + 1) (clock.wait Clock.glance) rest entries final) :
      Arrivals interval sequence clock (session :: rest)
        (⟨clock.now.after interval, sequence, session⟩ :: entries) final

namespace Arrivals
variable {interval : Duration} {sequence : Nat} {clock final : Clock} {sessions : List Session}
  {entries : List PingEntry}

theorem sessions_eq (arrivals : Arrivals interval sequence clock sessions entries final) :
    entries.map (·.session) = sessions := by
  induction arrivals with
  | nil => rfl
  | cons others ih => exact congrArg _ ih

theorem clock_eq (arrivals : Arrivals interval sequence clock sessions entries final)
    (still : clock.runs = false) : final = clock := by
  induction arrivals with
  | nil => rfl
  | cons others ih =>
    rw [Clock.wait_of_not_runs still] at ih
    exact ih still

theorem stamped (arrivals : Arrivals interval sequence clock sessions entries final) :
    Stamped interval sequence clock.now entries final.now := by
  induction arrivals with
  | nil => exact .nil (Int.le_refl _)
  | @cons sequence clock session rest entries final others ih =>
    exact .cons (Int.le_refl _) (ih.since (clock.now_le_wait Clock.glance))

end Arrivals
end PingingPool

namespace TransactionPingingPool
open PingingPool (Arrivals takeIn enqueue)

/-- Where there is room for every session that waits, the queue takes in one after another. -/
theorem flush_of_room (pending : List Session) :
    ∀ (moved : Nat) (inner : PingingPool) (env : Env σ),
      inner.queue.size + pending.length ≤ inner.size →
        ∃ entries clock,
          Arrivals inner.pingInterval inner.nextSequence env.clock pending entries clock ∧
          flush pending moved inner env =
            ((.ok (moved + pending.length), ⟨inner.takeIn entries, []⟩), { env with clock }) := by
  induction pending with
  | nil => exact fun moved inner env _ => ⟨[], env.clock, .nil, rfl⟩
  | cons session rest ih =>
    intro moved inner env room
    rw [List.length_cons] at room
    have notFull : ¬ inner.size ≤ inner.queue.size := by omega
    have stored : enqueue session inner env = (.ok (inner.shelve env.clock.now session),
        { env with clock := env.clock.wait Clock.glance }) := by
      simp only [enqueue, Bind.bind, StateT.bind, Act.now, Clock.look, PingingPool.enqueueAt,
        if_neg notFull]
      rfl
    have size : (inner.shelve env.clock.now session).queue.size = inner.queue.size + 1 :=
      PingQueue.size_insert _ _
    have roomLeft : (inner.shelve env.clock.now session).queue.size + rest.length ≤ inner.size := by
      omega
    obtain ⟨entries, clock, others, flushed⟩ := ih (moved + 1)
      (inner.shelve env.clock.now session) { env with clock := env.clock.wait Clock.glance }
      roomLeft
    refine ⟨_ :: entries, clock, .cons others, ?_⟩
    unfold flush
    simp only [Bind.bind, StateT.bind, stored, flushed]
    simp only [takeIn, PingingPool.shelve, PingQueue.insertAll, List.foldl_cons, List.length_cons,
      Nat.add_comm, Nat.add_left_comm]

/-- A flushing in which nothing goes missing: the sessions that waited are entries of the queue
now, each of them due one interval after it got there, in the order in which they waited. -/
structure FlushedWhole (before after : TransactionPingingPool) (begun ended : Clock)
    (moved : List PingEntry) : Prop where
  sessions : moved.map (·.session) = before.pending
  due : ∀ entry ∈ moved, ∃ time, begun.now ≤ time ∧ time ≤ ended.now ∧
    entry.due = time.after before.inner.pingInterval
  /-- On a clock that is set by hand no time passes meanwhile. -/
  still : begun.runs = false → ended = begun
  entries : after.inner.queue.entries.Perm (moved ++ before.inner.queue.entries)
  inOrder : moved.Sublist after.inner.queue.entries
  stored : before.inner.queue.entries.Sublist after.inner.queue.entries
  pending : after.pending = []
  others : after.inner = { before.inner with
    queue := after.inner.queue, nextSequence := before.inner.nextSequence + moved.length }

theorem beginPending_of_room (pool : TransactionPingingPool) (env : Env σ)
    (room : pool.inner.queue.size + pool.pending.length ≤ pool.inner.size) :
    let flushed := pool.beginPending env
    flushed.1.1 = .ok pool.pending.length ∧
      ∃ moved, pool.FlushedWhole flushed.1.2 env.clock flushed.2.clock moved := by
  intro flushed
  obtain ⟨moved, clock, arrivals, done⟩ := flush_of_room pool.pending 0 pool.inner env room
  rw [Nat.zero_add] at done
  have result : flushed.1 = (.ok pool.pending.length, ⟨pool.inner.takeIn moved, []⟩) ∧
      flushed.2.clock = clock := by
    simp only [flushed, beginPending, Bind.bind, StateT.bind, done]
    split <;> exact ⟨rfl, rfl⟩
  obtain ⟨ended, rfl⟩ := result
  rw [ended]
  refine ⟨rfl, moved, ⟨arrivals.sessions_eq, fun entry member => ?_, arrivals.clock_eq, ?_, ?_, ?_,
    rfl, rfl⟩⟩
  · obtain ⟨time, later, earlier, due, -⟩ := arrivals.stamped.due_eq entry member
    exact ⟨time, later, earlier, due⟩
  · exact PingQueue.insertAll_perm _ _
  · exact PingQueue.append_sublist_insertAll [] arrivals.stamped.inOrder (List.nil_sublist _)
  · exact PingQueue.sublist_insertAll _ _

variable [Service σ]

/-- A filling that succeeds leaves nothing waiting, and no filling creates more than is missing. -/
theorem bind_issues (pool : TransactionPingingPool) (backend : BackendId) :
    (pool.bind (σ := Recorder σ) backend).Hears fun r heard =>
      (r.1 = .ok () → r.2.pending = []) ∧
        (Desk.Measured heard → (idsIssued heard).length ≤
          pool.inner.size - (pool.inner.queue.size + pool.pending.length)) := by
  obtain ⟨inner, pending⟩ := pool
  let bound : PingingPool := { inner with desk := inner.desk.bind backend }
  refine .bind (Desk.provision_issues PingingPool.enqueue_byClock bound.desk _ bound) ?_
  rintro ⟨result, filled⟩ heard issues
  cases result with
  | error e => exact .pure ⟨nofun, issues⟩
  | ok _ =>
    refine .bind (beginPending_flushed ⟨filled, pending⟩) ?_
    rintro ⟨moved, after⟩ _ ⟨rfl, flushed⟩
    rw [List.append_nil]
    refine .pure ⟨fun ok => ?_, issues⟩
    cases moved with
    | error e => cases ok
    | ok count => exact flushed.pending_of_ok

/-- A filling that succeeds creates just the sessions that are missing. -/
theorem bind_fills (pool : TransactionPingingPool) (backend : BackendId)
    (room : pool.inner.queue.size + pool.pending.length ≤ pool.inner.size) :
    (pool.bind (σ := Recorder σ) backend).Hears fun r heard =>
      Desk.Measured heard → r.1 = .ok () →
        r.2.inner.queue.size = pool.inner.size ∧ r.2.pending = [] ∧
          (idsIssued heard).length =
            pool.inner.size - (pool.inner.queue.size + pool.pending.length) := by
  have stored (pool : TransactionPingingPool) :
      (Pool.transactionPinging pool).sessions.length =
        pool.inner.queue.size + pool.pending.length := Pool.length_sessions _
  refine ((pool.bind_bound backend).and (pool.bind_issues backend)).mono ?_
  rintro ⟨result, after⟩ heard ⟨bound, emptied, issues⟩ measured ok
  have none : after.pending = [] := emptied ok
  have atMost := issues measured
  have full : (Pool.transactionPinging after).sessions.length = pool.inner.size :=
    bound.full rfl (Nat.le_trans (Nat.le_add_right _ _) room) ok
  have sourced := bound.turnover.sourced.length_le
  simp only [List.length_append, List.length_map, full, stored] at sourced
  rw [stored, none, List.length_nil, Nat.add_zero] at full
  refine ⟨full, none, ?_⟩
  rw [List.nil_append]
  omega

end TransactionPingingPool

namespace Lending

theorem startAmong_within (strangers : List Session) (parts : PoolParts) (clock : Clock)
    (services : σ) (notBursty : parts.kind ≠ .bursty) :
    (startAmong strangers parts clock services).Within parts.places strangers.length := by
  obtain ⟨isBounded, capacity, fits, -⟩ := start_within parts clock services notBursty
  refine ⟨isBounded, capacity, fits, ?_⟩
  exact Nat.le_trans (Nat.le_of_eq List.length_append) (Nat.add_le_add_right fits _)

variable [Service σ]

/-- In every run, also of callers who give back sessions that are not of the pool, the queue and
the sessions that wait fit into the pool together. So flushing never fails and moves them all,
and a filling that succeeds fills every place, with as many new sessions as were missing, and
leaves nothing waiting. -/
theorem play_flushes_whole (strangers : List Session) (parts : PoolParts) (clock : Clock)
    (services : σ) (ops : List (Op σ)) (kind : parts.kind = .transactionPinging)
    (measured : Desk.Measured ((startAmong strangers parts clock services).play ops).heard) :
    let l := (startAmong strangers parts clock services).play ops
    ∃ pool, l.pool = .transactionPinging pool ∧ pool.inner.size = parts.places ∧
      pool.inner.queue.size + pool.pending.length ≤ parts.places ∧
      (let flushed := pool.beginPending l.env
       flushed.1.1 = .ok pool.pending.length ∧
         ∃ moved, pool.FlushedWhole flushed.1.2 l.env.clock flushed.2.clock moved) ∧
      ∀ backend,
        let filled := pool.bind backend l.env
        ∃ heard, filled.2.service.heard = l.heard ++ heard ∧
          (Desk.Measured heard → filled.1.1 = .ok () →
            filled.1.2.inner.queue.size = parts.places ∧ filled.1.2.pending = [] ∧
              (idsIssued heard).length =
                parts.places - (pool.inner.queue.size + pool.pending.length)) := by
  intro l
  have notBursty : parts.kind ≠ .bursty := by
    rw [kind]
    nofun
  have begun := startAmong_within strangers parts clock services notBursty
  obtain ⟨-, capacity, fits, -⟩ := begun.play ops measured
  obtain ⟨pool, same⟩ : ∃ pool, l.pool = .transactionPinging pool :=
    Pool.exists_transactionPinging ((startAmong_play_kind strangers parts clock services ops).trans
      kind)
  have size : pool.inner.size = parts.places := by
    have here : l.pool.capacity = parts.places := capacity
    rw [← here, same]
    rfl
  have stored : l.pool.sessions.length = pool.inner.queue.size + pool.pending.length := by
    rw [same]
    exact Pool.length_sessions _
  have room : pool.inner.queue.size + pool.pending.length ≤ parts.places := stored ▸ fits
  refine ⟨pool, same, size, room, pool.beginPending_of_room l.env (size ▸ room), ?_⟩
  intro backend filled
  obtain ⟨heard, grown, fills⟩ := pool.bind_fills backend (size ▸ room) l.env
  rw [size] at fills
  exact ⟨heard, grown, fills⟩

/-- A session of some other pool is given back while one of this pool is out, and waits. -/
theorem play_flushes_whole_of_stranger :
    let parts := PoolParts.ofConfig
      { PoolConfig.standard with kind := .transactionPinging, size := 2 }
    let stranger := Session.existing ⟨"stranger"⟩ 7 .empty Clock.running.now
    let begun := startAmong [stranger] parts .running
      (Fleet.ofBackends [.reliable (.fresh none none false) 0])
    let l := begun.play ([.bind 0, .get none, .put 0] : List (Op Fleet))
    (parts.kind = .transactionPinging ∧ Desk.Measured l.heard) ∧ l.pool.waiting.length = 1 ∧
      ∃ pool, l.pool = .transactionPinging pool ∧
        pool.inner.queue.size + pool.pending.length ≤ parts.places ∧
        (pool.beginPending l.env).1.1 = .ok 1 := by
  intro parts stranger begun l
  have measured : Desk.Measured l.heard := by
    decide +kernel
  have waits : l.pool.waiting.length = 1 := by
    decide +kernel
  obtain ⟨pool, same, -, room, ⟨flushed, -⟩, -⟩ :=
    play_flushes_whole [stranger] parts .running _ [.bind 0, .get none, .put 0] rfl measured
  refine ⟨⟨rfl, measured⟩, waits, pool, same, room, ?_⟩
  have here : l.pool = .transactionPinging pool := same
  rw [here] at waits
  exact flushed.trans (congrArg Except.ok waits)

end Lending

end SessionPooling
