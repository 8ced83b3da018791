import SessionPooling.Backend.Fleet
import SessionPooling.Proofs.CleanFailure
import SessionPooling.Proofs.Refreshing

/-! How long a session of a pinged pool goes without news. Rounds of pings that succeed leave
nothing due, and what is stored later falls due later; so shortly after such a round, each session
in the queue was stored, kept alive or created not much longer ago than one interval. -/
namespace SessionPooling
variable {σ : Type}

namespace PoolParts

def interval (parts : PoolParts) : Duration :=
  parts.pingInterval.getD PoolConfig.standard.pingInterval

theorem exists_pinging {parts : PoolParts} (pinging : parts.kind = .pinging) :
    ∃ pool, parts.pool = .pinging pool ∧ pool.queue = .empty ∧
      pool.pingInterval = parts.interval := by
  obtain ⟨kind, _⟩ := parts
  cases pinging
  exact ⟨_, rfl, rfl, rfl⟩

end PoolParts

namespace Pool
variable {pool : PingingPool} {after : Pool} {heard : List Exchange}

/-- A queue from which entries may have been taken. -/
def Thinned (pool : PingingPool) (after : Pool) : Prop :=
  ∃ next, after = .pinging next ∧ next.pingInterval = pool.pingInterval ∧
    next.queue.entries ⊆ pool.queue.entries

theorem Thinned.refl (pool : PingingPool) : Thinned pool (.pinging pool) :=
  ⟨pool, rfl, rfl, List.Subset.refl _⟩

theorem Thinned.mapDesk (thinned : Thinned pool after) (change : Desk → Desk) :
    Thinned pool (after.mapDesk change) := by
  obtain ⟨next, rfl, interval, entries⟩ := thinned
  exact ⟨_, rfl, interval, entries⟩

theorem thinned_of_pop? {popped : Session} {rest : Pool}
    (taken : (pinging pool).pop? = some (popped, rest)) : Thinned pool rest := by
  obtain ⟨⟨entry, queue⟩, first, same⟩ := Option.map_eq_some_iff.1 taken
  cases same
  exact ⟨_, rfl, rfl, PingingPool.entries_subset_of_pop? first⟩

theorem Took.thinned {result : Except Failure Session}
    (took : (pinging pool).Took result after heard) : Thinned pool after := by
  cases took with
  | exhausted => exact .refl _
  | created isBursty => cases isBursty
  | notCreated isBursty => cases isBursty
  | handedOut taken => exact (thinned_of_pop? taken).mapDesk _
  | lost taken => exact thinned_of_pop? taken
  | putBack => exact .refl _
  | crowdedOut taken => exact thinned_of_pop? taken

end Pool

namespace Lending

/-- How an operation comes to store a session. -/
inductive Places (l : Lending σ) [Service σ] : Op σ → Session → Prop where
  | filled {session} (backend : BackendId)
      (created : PingingPool.InBatch l.env.clock.now session) : Places l (.bind backend) session
  | givenBack {op place session} (gives : op.GivesBack place)
      (found : l.held[place]? = some session) : Places l op (session.setInUse false)
  | pinged {session heard} (grown : (l.step .ping).heard = l.heard ++ heard)
      (renewed : session.Renewed heard) : Places l .ping session
  | pingedOn {session heard} (grown : (l.step .pingAllDue).heard = l.heard ++ heard)
      (renewed : session.Renewed heard) : Places l .pingAllDue session

variable [Service σ]

/-- What an operation does to a queue while the clock stands still. -/
theorem step_restocked {l : Lending σ} {pool : PingingPool} (same : l.pool = .pinging pool)
    (still : l.env.clock.runs = false) (op : Op σ) :
    ∃ next, (l.step op).pool = .pinging next ∧
      pool.Restocked l.env.clock.now (l.Places op) next := by
  have thinned (fewer : Pool.Thinned pool (l.step op).pool) :
      ∃ next, (l.step op).pool = .pinging next ∧
        pool.Restocked l.env.clock.now (l.Places op) next := by
    obtain ⟨next, same, interval, entries⟩ := fewer
    exact ⟨next, same, .of_subset interval entries⟩
  have untouched (unchanged : (l.step op).pool = l.pool) :
      ∃ next, (l.step op).pool = .pinging next ∧
        pool.Restocked l.env.clock.now (l.Places op) next :=
    ⟨pool, unchanged.trans same, .refl pool⟩
  have givesBack {place : Nat} (gives : op.GivesBack place) :
      ∃ next, (l.step op).pool = .pinging next ∧
        pool.Restocked l.env.clock.now (l.Places op) next := by
    cases found : l.held[place]? with
    | none => exact untouched (congrArg Lending.pool (step_of_nothing gives found))
    | some session =>
      obtain ⟨_, -, -, restocked⟩ := pool.put_restocked still session l.env rfl
      rw [(step_givesBack gives found).1, same]
      refine ⟨_, rfl, restocked.mono ?_⟩
      rintro _ rfl
      exact .givenBack gives found
  obtain ⟨env, _, held⟩ := l
  subst same
  cases op with
  | bind backend =>
    obtain ⟨_, -, -, restocked⟩ := pool.bindReserving_restocked still backend 0 env rfl
    exact ⟨_, rfl, restocked.mono fun _ created => .filled backend created⟩
  | get timeout =>
    obtain ⟨_, -, took⟩ := (Pool.pinging pool).get_took timeout env
    exact thinned took.thinned
  | put place => exact givesBack (.inl rfl)
  | release place => exact givesBack (.inr rfl)
  | clear =>
    obtain ⟨_, -, cleared, -⟩ := pool.clear_hears env
    have emptied : Pool.Thinned pool (.pinging (pool.clear env).1.2) := by
      rw [cleared]
      exact ⟨_, rfl, rfl, List.nil_subset _⟩
    exact thinned emptied
  | ping =>
    obtain ⟨heard, grown, -, pinged⟩ := pool.ping_pingedAt still env rfl
    exact ⟨_, rfl, pinged.restocked.mono fun _ renewed => .pinged grown renewed⟩
  | pingAllDue =>
    obtain ⟨heard, grown, -, restocked, -⟩ :=
      PingingPool.pingRounds_refreshes still pool.size 0 pool env rfl
    exact ⟨_, rfl, restocked.mono fun _ renewed => .pingedOn grown renewed⟩
  | beginPending => exact untouched rfl
  | use place use =>
    apply untouched
    simp only [step, useBy]
    split <;> rfl
  | outside change => exact untouched rfl
  | moveClock change => exact untouched rfl

/-- Whether the clock is one that is set by hand, goes forward, and stays more than an interval
before the last instant, in the course of a run. -/
def KeepsTime (interval : Duration) (l : Lending σ) : List (Op σ) → Prop
  | [] => True
  | op :: ops =>
    ((l.step op).env.clock.runs = false ∧ l.env.clock.now ≤ (l.step op).env.clock.now ∧
      (l.step op).env.clock.now.nanos + interval.nanos < latestNanos) ∧
      KeepsTime interval (l.step op) ops

instance decidableKeepsTime (interval : Duration) :
    ∀ (l : Lending σ) (ops : List (Op σ)), Decidable (KeepsTime interval l ops)
  | _, [] => inferInstanceAs (Decidable True)
  | l, op :: ops =>
    have := decidableKeepsTime interval (l.step op) ops
    inferInstanceAs (Decidable ((_ ∧ _ ∧ _) ∧ KeepsTime interval (l.step op) ops))

/-- Whether an operation is a round of pings that succeeds. -/
def completesRound (l : Lending σ) : Op σ → Bool
  | .pingAllDue => (l.pool.pingAllDue l.env).1.1.isOk
  | _ => false

/-- The time of the last round of pings of a run that succeeded, if there was one since a time. -/
def lastRound (since : Instant) (l : Lending σ) : List (Op σ) → Instant
  | [] => since
  | op :: ops => lastRound (if l.completesRound op then l.env.clock.now else since) (l.step op) ops

/-- A pool that is pinged, none of whose sessions was due at a time in the past. -/
structure Fresh (interval : Duration) (since : Instant) (l : Lending σ) : Prop where
  still : l.env.clock.runs = false
  past : since ≤ l.env.clock.now
  room : l.env.clock.now.nanos + interval.nanos < latestNanos
  stocked : l.pool.Stocked
  refreshed : ∃ pool, l.pool = .pinging pool ∧ pool.pingInterval = interval ∧ pool.Refreshed since

variable {interval : Duration} {since : Instant}

theorem now_lt_after {now : Instant} (room : now.nanos + interval.nanos < latestNanos)
    (positive : 0 < interval.nanos) : now < now.after interval := by
  simp only [Instant.lt_iff, Instant.nanos_after]
  omega

/-- A round that succeeds is long enough for all that is due. -/
theorem Fresh.refreshed_of_round {l : Lending σ} {op : Op σ} (fresh : l.Fresh interval since)
    (positive : 0 < interval.nanos) (complete : l.completesRound op) :
    ∃ pool, (l.step op).pool = .pinging pool ∧ pool.pingInterval = interval ∧
      pool.Refreshed l.env.clock.now := by
  obtain ⟨still, past, room, stocked, pool, same, rfl, -⟩ := fresh
  obtain ⟨env, _, held⟩ := l
  subst same
  have fits : pool.queue.size ≤ pool.size := stocked rfl
  cases op with
  | pingAllDue =>
    obtain ⟨_, -, -, restocked, refreshes⟩ :=
      PingingPool.pingRounds_refreshes still pool.size 0 pool env rfl
    obtain ⟨total, ok⟩ : ∃ total, (pool.pingAllDue env).1.1 = .ok total := by
      have succeeded : (pool.pingAllDue env).1.1.isOk = true := complete
      cases ended : (pool.pingAllDue env).1.1 with
      | ok total => exact ⟨total, rfl⟩
      | error e =>
        rw [ended] at succeeded
        cases succeeded
    have enough : pool.overdue env.clock.now ≤ pool.size :=
      Nat.le_trans (pool.overdue_le_size _) fits
    exact ⟨_, rfl, restocked.interval, refreshes (now_lt_after room positive) enough total ok⟩
  | _ => cases complete

theorem Fresh.step {l : Lending σ} (fresh : l.Fresh interval since)
    (positive : 0 < interval.nanos) (op : Op σ)
    (timely : (l.step op).env.clock.runs = false ∧ l.env.clock.now ≤ (l.step op).env.clock.now ∧
      (l.step op).env.clock.now.nanos + interval.nanos < latestNanos) :
    (l.step op).Fresh interval (if l.completesRound op then l.env.clock.now else since) := by
  obtain ⟨still, forward, room⟩ := timely
  refine ⟨still, ?_, room, stocked_step fresh.stocked op, ?_⟩
  · split
    · exact forward
    · exact Int.le_trans fresh.past forward
  · split
    next complete => exact fresh.refreshed_of_round positive complete
    next incomplete =>
      obtain ⟨pool, same, rfl, refreshed⟩ := fresh.refreshed
      obtain ⟨next, stays, restocked⟩ := step_restocked same fresh.still op
      refine ⟨next, stays, restocked.interval, fun entry member => ?_⟩
      rcases restocked.entries entry member with earlier | ⟨due, -⟩
      · exact refreshed entry earlier
      · rw [due]
        exact Int.lt_of_le_of_lt fresh.past (now_lt_after fresh.room positive)

theorem Fresh.play (positive : 0 < interval.nanos) (ops : List (Op σ)) :
    ∀ {since : Instant} {l : Lending σ}, l.Fresh interval since → KeepsTime interval l ops →
      (l.play ops).Fresh interval (lastRound since l ops) := by
  induction ops with
  | nil => exact fun fresh _ => fresh
  | cons op ops ih =>
    intro since l fresh timely
    exact ih (fresh.step positive op timely.1) timely.2

/-- An operation of a run stored a session at a time, from which on its interval counts. -/
def StoredAt (interval : Duration) (l : Lending σ) (ops : List (Op σ)) (entry : PingEntry)
    (time : Instant) : Prop :=
  ∃ earlier op later, ops = earlier ++ op :: later ∧
    let before := l.play earlier
    before.env.clock.now = time ∧ before.Places op entry.session ∧
      entry.due.nanos = time.nanos + interval.nanos

theorem StoredAt.later {l : Lending σ} {op : Op σ} {ops : List (Op σ)} {entry : PingEntry}
    {time : Instant} (stored : StoredAt interval (l.step op) ops entry time) :
    StoredAt interval l (op :: ops) entry time := by
  obtain ⟨earlier, last, later, rfl, holds⟩ := stored
  exact ⟨op :: earlier, last, later, rfl, holds⟩

/-- Whatever is in the queue in the end was there before, or was stored in the course of the
run. -/
theorem Fresh.stored (positive : 0 < interval.nanos) (ops : List (Op σ)) :
    ∀ {since : Instant} {l : Lending σ} {pool last : PingingPool}, l.Fresh interval since →
      KeepsTime interval l ops → l.pool = .pinging pool → (l.play ops).pool = .pinging last →
      ∀ entry ∈ last.queue.entries,
        entry ∈ pool.queue.entries ∨ ∃ time, StoredAt interval l ops entry time := by
  induction ops with
  | nil =>
    intro since l pool last _ _ first same entry member
    obtain rfl : pool = last := Pool.pinging.inj (first.symm.trans same)
    exact .inl member
  | cons op ops ih =>
    intro since l pool last fresh timely first same entry member
    obtain ⟨_, same', interval_eq, -⟩ := fresh.refreshed
    obtain rfl := Pool.pinging.inj (first.symm.trans same')
    obtain ⟨next, stays, restocked⟩ := step_restocked first fresh.still op
    have room := fresh.room
    rcases ih (fresh.step positive op timely.1) timely.2 stays same entry member with
      earlier | ⟨time, stored⟩
    · rcases restocked.entries entry earlier with earlier | ⟨due, places⟩
      · exact .inl earlier
      · refine .inr ⟨l.env.clock.now, [], op, ops, rfl, rfl, places, ?_⟩
        rw [due, Instant.nanos_after, interval_eq]
        omega
    · exact .inr ⟨time, stored.later⟩

/-- Keeping alive. After a run that begins with a filling and has a round of pings that succeeded,
or the filling itself, no longer ago than `patience`, each session in the queue is due later than
`patience` ago: it was stored, answered to a ping or was created in place of another less than an
interval and `patience` ago. -/
theorem play_keeps_alive (strangers : List Session) (parts : PoolParts) (clock : Clock)
    (services : σ) (backend : BackendId) (ops : List (Op σ)) (patience : Duration)
    (pinging : parts.kind = .pinging) (positive : 0 < parts.interval.nanos)
    (still : clock.runs = false) (room : clock.now.nanos + parts.interval.nanos < latestNanos)
    (timely : KeepsTime parts.interval (startAmong strangers parts clock services)
      (.bind backend :: ops))
    (recent : (lastRound clock.now (startAmong strangers parts clock services)
        (.bind backend :: ops)).elapsed
      ((startAmong strangers parts clock services).play (.bind backend :: ops)).env.clock.now ≤
        patience) :
    let begun := startAmong strangers parts clock services
    let l := begun.play (.bind backend :: ops)
    ∃ pool, l.pool = .pinging pool ∧ ∀ entry ∈ pool.queue.entries,
      l.env.clock.now.nanos < entry.due.nanos + patience.nanos ∧
      ∃ time, StoredAt parts.interval begun (.bind backend :: ops) entry time ∧
        time.elapsed l.env.clock.now < parts.interval + patience := by
  intro begun l
  obtain ⟨empty, isPinging, none, interval_eq⟩ := PoolParts.exists_pinging pinging
  have nothing : empty.queue.entries = [] := congrArg PingQueue.entries none
  have fresh : (startAmong strangers parts clock services).Fresh parts.interval clock.now := by
    refine ⟨still, Int.le_refl _, room, ?_, empty, isPinging, interval_eq, ?_⟩
    · exact stocked_startAmong strangers parts clock services
    · intro entry member
      rw [nothing] at member
      cases member
  obtain ⟨pool, same, -, refreshed⟩ := (fresh.play positive _ timely).refreshed
  refine ⟨pool, same, fun entry member => ?_⟩
  have later := refreshed entry member
  simp only [Duration.le_iff, Instant.elapsed, Instant.lt_iff] at recent later
  have due : l.env.clock.now.nanos < entry.due.nanos + patience.nanos := by
    change ((startAmong strangers parts clock services).play _).env.clock.now.nanos < _
    omega
  refine ⟨due, ?_⟩
  rcases Fresh.stored positive _ fresh timely isPinging same entry member with impossible | stored
  · rw [nothing] at impossible
    cases impossible
  · obtain ⟨time, stored⟩ := stored
    refine ⟨time, stored, ?_⟩
    obtain ⟨earlier, op, later, -, -, -, stamped⟩ := stored
    simp only [Duration.lt_iff, Instant.elapsed, Duration.nanos_add]
    omega

/-- A session of another pool is given back, a ping fails, and a later round succeeds. -/
theorem play_keeps_alive_of_failed_ping :
    let parts := PoolParts.ofConfig
      { PoolConfig.standard with kind := .pinging, size := 2, pingIntervalSecs := 100 }
    let clock := Clock.startingAt ⟨0, by decide⟩
    let services := Fleet.ofBackends [.reliable (.fresh none none false) 0]
    let stranger := Session.existing ⟨"stranger"⟩ 7 .empty clock.now
    let after (seconds : Nat) : Op Fleet := .moveClock (·.advance (.ofSeconds seconds))
    let ops : List (Op Fleet) := [after 60, .get none, after 30, .put 0, after 20,
      .outside (Fleet.onBackend 0 (·.arrange .ping (some Fleet.unreachable))), .ping,
      .outside (Fleet.onBackend 0 (·.arrange .ping none)), .pingAllDue, after 50]
    let patience := Duration.ofSeconds 50
    let run : List (Op Fleet) := .bind 0 :: ops
    let l := (startAmong [stranger] parts clock services).play run
    (parts.kind = .pinging ∧ 0 < parts.interval.nanos ∧ clock.runs = false ∧
      clock.now.nanos + parts.interval.nanos < latestNanos ∧
      KeepsTime parts.interval (startAmong [stranger] parts clock services) run ∧
      (lastRound clock.now (startAmong [stranger] parts clock services) run).elapsed
        ((startAmong [stranger] parts clock services).play run).env.clock.now ≤ patience) ∧
    l.pool.sessions.length = 2 ∧
    ∃ pool, l.pool = .pinging pool ∧ ∀ entry ∈ pool.queue.entries,
      l.env.clock.now.nanos < entry.due.nanos + patience.nanos := by
  intro parts clock services stranger after ops patience run l
  have positive : 0 < parts.interval.nanos := by decide
  have room : clock.now.nanos + parts.interval.nanos < latestNanos := by decide
  have timely : KeepsTime parts.interval (startAmong [stranger] parts clock services) run := by
    decide +kernel
  have recent : (lastRound clock.now (startAmong [stranger] parts clock services) run).elapsed
      ((startAmong [stranger] parts clock services).play run).env.clock.now ≤ patience := by
    decide +kernel
  have stored : l.pool.sessions.length = 2 := by decide +kernel
  obtain ⟨pool, same, alive⟩ := play_keeps_alive [stranger] parts clock services 0 ops patience
    rfl positive rfl room timely recent
  exact ⟨⟨rfl, positive, rfl, room, timely, recent⟩, stored, pool, same,
    fun entry member => (alive entry member).1⟩

end Lending
end SessionPooling
