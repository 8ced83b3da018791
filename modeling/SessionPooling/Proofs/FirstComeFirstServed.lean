import SessionPooling.Proofs.QueueRuns

/-! First come, first served. Taking and pinging concern the first entry of a queue, which is
strictly before all others by due time and number, whatever the clock did. As long as the clock
does not go back, that is also the order in which the sessions were last stored. -/
namespace SessionPooling
variable {σ : Type}

def PingEntry.Before (a b : PingEntry) : Prop :=
  a.due < b.due ∨ a.due = b.due ∧ a.sequence < b.sequence

theorem PingEntry.NotAfter.before {a b : PingEntry} (notAfter : a.NotAfter b)
    (distinct : a.sequence ≠ b.sequence) : a.Before b := by
  rcases notAfter with sooner | ⟨together, fewer⟩
  · exact .inl sooner
  · exact .inr ⟨Instant.ext together, Nat.lt_of_le_of_ne fewer distinct⟩

theorem PingQueue.pop?_of_entries {queue : PingQueue} {first : PingEntry} {others : List PingEntry}
    (front : queue.entries = first :: others) :
    ∃ rest, queue.pop? = some (first, rest) ∧ rest.entries = others := by
  obtain ⟨entries, ordered⟩ := queue
  subst front
  exact ⟨_, rfl, rfl⟩

namespace PingingPool

/-- Taking a session from a queue takes the first entry, which stays where it is if no one can tell
whether its session exists. -/
inductive TookFirst (pool : PingingPool) (first : PingEntry) (others : List PingEntry) :
    Except Failure Session → PingingPool → List Exchange → Prop where
  | handedOut {session after heard} (vetted : pool.desk.Vetted first.session (.fit session) heard)
      (left : after.queue.entries = others) :
      TookFirst pool first others (.ok (session.setInUse true)) after heard
  | lost {e after heard} (vetted : pool.desk.Vetted first.session (.lost e) heard)
      (left : after.queue.entries = others) : TookFirst pool first others (.error e) after heard
  | stays {e heard} (vetted : pool.desk.Vetted first.session (.unclear e) heard) :
      TookFirst pool first others (.error e) pool heard

/-- A ping refreshes the first entry if it is due, and puts it where its new due time and number
belong; it stays where it is if it is not due, or if the ping fails. -/
inductive PingedFirst (pool : PingingPool) (first : PingEntry) (others : List PingEntry)
    (begun ended : Clock) : Except Failure Bool → PingingPool → List Exchange → Prop where
  | early (notDue : begun.now < first.due) :
      PingedFirst pool first others begun ended (.ok false) pool []
  | refreshed {session time after heard} (due : first.due ≤ begun.now)
      (refreshed : pool.desk.Refreshed first.session (.fit session) heard)
      (shown : begun.Spans time ended)
      (stored : after.queue.entries =
        insertPingEntry ⟨time.after pool.pingInterval, pool.nextSequence, session⟩ others) :
      PingedFirst pool first others begun ended (.ok true) after heard
  | lost {e after heard} (due : first.due ≤ begun.now)
      (refreshed : pool.desk.Refreshed first.session (.lost e) heard)
      (left : after.queue.entries = others) :
      PingedFirst pool first others begun ended (.error e) after heard
  | stays {e heard} (due : first.due ≤ begun.now)
      (refreshed : pool.desk.Refreshed first.session (.unclear e) heard) :
      PingedFirst pool first others begun ended (.error e) pool heard

section
variable {pool : PingingPool} {first : PingEntry} {others : List PingEntry} {heard : List Exchange}

theorem tookFirst_of_took {after : Pool} {result : Except Failure Session}
    (took : (Pool.pinging pool).Took result after heard) (stocked : (Pool.pinging pool).Stocked)
    (front : pool.queue.entries = first :: others) :
    ∃ next, after = .pinging next ∧ pool.TookFirst first others result next heard := by
  obtain ⟨queue, popped, left⟩ := PingQueue.pop?_of_entries front
  have front : (Pool.pinging pool).pop? = some (first.session, .pinging { pool with queue }) :=
    Pool.Around.alone.pop?_of_popped popped
  have same {session : Session} {rest : Pool}
      (taken : (Pool.pinging pool).pop? = some (session, rest)) :
      first.session = session ∧ .pinging { pool with queue } = rest :=
    Prod.mk.inj (Option.some.inj (front.symm.trans taken))
  cases took with
  | exhausted isBounded empty => cases front.symm.trans empty
  | created isBursty => cases isBursty
  | notCreated isBursty => cases isBursty
  | handedOut taken vetted =>
    obtain ⟨rfl, rfl⟩ := same taken
    exact ⟨_, rfl, .handedOut vetted left⟩
  | lost taken vetted =>
    obtain ⟨rfl, rfl⟩ := same taken
    exact ⟨_, rfl, .lost vetted left⟩
  | putBack taken vetted =>
    obtain ⟨rfl, -⟩ := same taken
    exact ⟨_, rfl, .stays vetted⟩
  | crowdedOut taken overfull => exact (overfull stocked).elim

theorem PingedFrom.pingedFirst {after : PingingPool} {begun ended : Clock}
    {result : Except Failure Bool}
    (pinged : pool.PingedFrom begun ended result after heard) (fits : pool.queue.size ≤ pool.size)
    (front : pool.queue.entries = first :: others) :
    pool.PingedFirst first others begun ended result after heard := by
  have same {entry : PingEntry} {queue : PingQueue}
      (popped : pool.queue.pop? = some (entry, queue)) : first = entry ∧ others = queue.entries :=
    List.cons.inj (front.symm.trans (PingQueue.entries_of_pop? popped))
  cases pinged with
  | idle early => exact .early (early first (front ▸ List.mem_cons_self))
  | stored popped due refreshed shown =>
    obtain ⟨rfl, rfl⟩ := same popped
    exact .refreshed due refreshed shown rfl
  | lost popped due refreshed =>
    obtain ⟨rfl, rfl⟩ := same popped
    exact .lost due refreshed rfl
  | putBack popped due refreshed =>
    obtain ⟨rfl, -⟩ := same popped
    exact .stays due refreshed
  | crowdedOut popped overfull refreshed => exact (Nat.not_lt_of_le fits overfull).elim

end

/-- A queue in which the first entry comes strictly before all others, and whatever is taken or
pinged is the first. -/
structure ServesFirst (pool : PingingPool) (first : PingEntry) (others : List PingEntry)
    [Service σ] (env : Env (Recorder σ)) : Prop where
  least : ∀ other ∈ others, first.Before other
  nextDue : pool.queue.nextDue? = some first.due
  get : ∀ timeout,
    let got := (Pool.pinging pool).get timeout env
    ∃ next heard, got.1.2 = .pinging next ∧ got.2.service.heard = env.service.heard ++ heard ∧
      pool.TookFirst first others got.1.1 next heard
  ping :
    let pinged := pool.ping env
    ∃ heard, pinged.2.service.heard = env.service.heard ++ heard ∧
      pool.PingedFirst first others env.clock pinged.2.clock pinged.1.1 pinged.1.2 heard

/-- A queue in which there is nothing to take and nothing to ping. -/
structure ServesNone (pool : PingingPool) [Service σ] (env : Env (Recorder σ)) : Prop where
  nextDue : pool.queue.nextDue? = none
  get : ∀ timeout, ((Pool.pinging pool).get timeout env).1 =
    (.error (.poolExhausted (timeout.getD pool.defaultTimeout)), .pinging pool)
  ping : (pool.ping env).1 = (.ok false, pool)

variable [Service σ] {pool : PingingPool}

theorem Numbered.servesFirst (numbered : pool.Numbered) (stocked : (Pool.pinging pool).Stocked)
    {first : PingEntry} {others : List PingEntry} (front : pool.queue.entries = first :: others)
    (env : Env (Recorder σ)) : pool.ServesFirst first others env := by
  refine ⟨fun other behind => ?_, ?_, fun timeout => ?_, ?_⟩
  · have distinct := numbered.distinct
    have ordered := pool.queue.ordered
    rw [front] at distinct ordered
    refine ((List.pairwise_cons.1 ordered).1 other behind).before fun same => ?_
    exact (List.nodup_cons.1 distinct).1 (List.mem_map.2 ⟨other, behind, same.symm⟩)
  · rw [PingQueue.nextDue?, front]
    rfl
  · obtain ⟨heard, grown, took⟩ := (Pool.pinging pool).get_took timeout env
    obtain ⟨next, after, tookFirst⟩ := tookFirst_of_took took stocked front
    exact ⟨next, heard, after, grown, tookFirst⟩
  · obtain ⟨heard, grown, -, pinged⟩ := pool.ping_pingedFrom env.clock env rfl
    exact ⟨heard, grown, pinged.pingedFirst (stocked rfl) front⟩

theorem servesNone (empty : pool.queue.entries = []) (env : Env (Recorder σ)) :
    pool.ServesNone env := by
  have none : pool.queue.pop? = none := by
    obtain ⟨desk, size, limit, interval, ⟨entries, ordered⟩, sequence⟩ := pool
    subst empty
    rfl
  refine ⟨?_, fun timeout => ?_, ?_⟩
  · rw [PingQueue.nextDue?, empty]
    rfl
  · simp only [Pool.get, Pool.take, PingingPool.get, none]
    rfl
  · simp only [PingingPool.ping, none]
    rfl

end PingingPool

namespace Lending
variable [Service σ]

/-- In every run of a pool around a queue, no two entries have the same number, and whatever is
taken or pinged is the entry that is before all others by due time and number. If the clock never
goes back in the run, the queue holds the sessions that were stored last, in the order in which
they were. -/
theorem play_serves_in_order (strangers : List Session) (parts : PoolParts) (clock : Clock)
    (services : σ) (ops : List (Op σ)) (pinging : parts.kind = .pinging) :
    let begun := startAmong strangers parts clock services
    let l := begun.play ops
    ∃ pool, l.pool = .pinging pool ∧ (pool.queue.entries.map (·.sequence)).Nodup ∧
      (pool.queue.entries = [] → pool.ServesNone l.env) ∧
      (∀ first others, pool.queue.entries = first :: others →
        pool.ServesFirst first others l.env) ∧
      (begun.GoesForward ops →
        ∃ arrivals, begun.Arrived ops arrivals ∧ pool.queue.sessions <:+ arrivals) := by
  intro begun l
  obtain ⟨fresh, queues, empty⟩ := startAmong_queues strangers clock services pinging
  obtain ⟨pool, queuesLast⟩ := queues.play ops
  have stocked := queuesLast.stocked
  rw [queuesLast.same] at stocked
  refine ⟨pool, queuesLast.same, queuesLast.numbered.distinct,
    fun empty => PingingPool.servesNone empty _,
    fun first others front => queuesLast.numbered.servesFirst stocked front _, fun forward => ?_⟩
  obtain ⟨last, arrivals, queuesAlso, arrived, waiting⟩ :=
    queues.play_firstCome ops (PingingPool.firstCome_of_empty empty) forward
  obtain rfl := Pool.pinging.inj (queuesLast.same.symm.trans queuesAlso.same)
  have nothing : fresh.queue.sessions = [] := congrArg (List.map PingEntry.session) empty
  rw [nothing] at waiting
  exact ⟨arrivals, arrived, waiting⟩

/-- At the last instant, where all due times are the same, a session is given back and another is
pinged, once in vain. -/
theorem play_serves_in_order_of_saturated :
    let parts := PoolParts.ofConfig { PoolConfig.standard with kind := .pinging, size := 3 }
    let clock := Clock.startingAt .latest
    let services := Fleet.ofBackends [.reliable (.fresh none none false) 0]
    let ops : List (Op Fleet) := [.bind 0, .get none, .put 0,
      .outside (Fleet.onBackend 0 (·.arrange .ping (some Fleet.unreachable))), .ping,
      .outside (Fleet.onBackend 0 (·.arrange .ping none)), .ping]
    let begun := startAmong [] parts clock services
    let l := begun.play ops
    (parts.kind = .pinging ∧ begun.GoesForward ops) ∧
      l.pool.sessions.map (·.id?) =
        [some ⟨"session-3"⟩, some ⟨"session-1"⟩, some ⟨"session-2"⟩] ∧
      ∃ pool, l.pool = .pinging pool ∧
        ∃ arrivals, begun.Arrived ops arrivals ∧ pool.queue.sessions <:+ arrivals := by
  intro parts clock services ops begun l
  have forward : begun.GoesForward ops := by decide +kernel
  have stored : l.pool.sessions.map (·.id?) =
      [some ⟨"session-3"⟩, some ⟨"session-1"⟩, some ⟨"session-2"⟩] := by decide +kernel
  obtain ⟨pool, same, -, -, -, inOrder⟩ :=
    play_serves_in_order [] parts clock services ops rfl
  exact ⟨⟨rfl, forward⟩, stored, pool, same, inOrder forward⟩

end Lending
end SessionPooling
