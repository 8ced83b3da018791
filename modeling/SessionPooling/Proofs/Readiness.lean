import SessionPooling.Backend.Fleet
import SessionPooling.Proofs.Lending
import SessionPooling.Proofs.TransactionProtocol

/-! Which transactions the sessions of a pool have that readies them. A session that comes back
waits with a new transaction, unless it has one that can still be used; so none in the queue has one
that is finished, and none that is taken has. -/
namespace SessionPooling
variable {σ : Type}

namespace Session

/-- A session with a transaction of its own, to which nothing was done yet. -/
structure Readied (session : Session) (t : Transaction) : Prop where
  attached : session.transaction = some t
  own : session.id? = some t.session
  notBegun : t.id? = none
  noWrites : t.mutations = []
  notFinished : t.isFinished = false

/-- If the session has a transaction, it can still be used. -/
def Usable (session : Session) : Prop :=
  ∀ t, session.transaction = some t → t.committed? = none ∧ t.isRolledBack = false

/-- The session has no transaction, or one that is finished. -/
def Lacking (session : Session) : Prop :=
  ∀ t, session.transaction = some t → t.isFinished = true

theorem Readied.usable {session : Session} {t : Transaction} (readied : session.Readied t) :
    session.Usable := by
  rintro _ attached
  obtain rfl := Option.some.inj (readied.attached.symm.trans attached)
  have notFinished := t.isFinished_iff.not.1 (ne_true_of_eq_false readied.notFinished)
  simpa using notFinished

theorem usable_of_none {session : Session} (nothing : session.transaction = none) :
    session.Usable := by
  intro t attached
  rw [nothing] at attached
  cases attached

theorem Usable.notFinished {session : Session} (usable : session.Usable) {t : Transaction}
    (attached : session.transaction = some t) : t.isFinished = false := by
  refine eq_false_of_ne_true (t.isFinished_iff.not.2 ?_)
  simpa using usable t attached

theorem needsTransaction_iff (session : Session) :
    TransactionPingingPool.needsTransaction session ↔ session.Lacking := by
  unfold TransactionPingingPool.needsTransaction Lacking
  split
  next nothing => simp [nothing]
  next t attached => simp [attached]

theorem usable_of_not_lacking {session : Session} (notLacking : ¬ session.Lacking) :
    session.Usable := by
  simp only [Lacking, not_forall] at notLacking
  obtain ⟨t, attached, unfinished⟩ := notLacking
  intro _ same
  obtain rfl := Option.some.inj (attached.symm.trans same)
  simpa [t.isFinished_iff] using unfinished

theorem readied_of_newTransaction {session ready : Session}
    (fresh : session.newTransaction = .ok ready) :
    ∃ t, ready = { session with transaction := some t } ∧ ready.Readied t := by
  unfold newTransaction at fresh
  split at fresh
  · cases fresh
  next creation known =>
    cases fresh
    exact ⟨_, rfl, rfl, congrArg (Option.map _) known, rfl, rfl, rfl⟩

theorem Pinged.usable {session next : Session} {heard : List Exchange}
    (pinged : session.Pinged (.ok next) heard) (usable : session.Usable) : next.Usable := by
  cases pinged with
  | kept known time => exact usable

end Session

/-! What comes of a session that is looked at. -/

namespace Desk
variable {desk : Desk} {popped session : Session} {heard : List Exchange}

theorem Created.usable (created : desk.Created (.ok session) heard) : session.Usable := by
  cases created with
  | created bound role id time => exact Session.usable_of_none rfl

theorem Vetted.usable (vetted : desk.Vetted popped (.fit session) heard)
    (usable : popped.Usable) : session.Usable := by
  cases vetted with
  | trusted => exact usable
  | alive probed => exact usable
  | replaced gone created => exact created.usable

theorem Refreshed.usable (refreshed : desk.Refreshed popped (.fit session) heard)
    (usable : popped.Usable) : session.Usable := by
  cases refreshed with
  | pinged pinged => exact pinged.usable usable
  | replaced notFound pinged created => exact created.usable

end Desk

namespace PingingPool

/-- No session in the queue has a transaction that is finished. -/
def AllUsable (pool : PingingPool) : Prop := ∀ session ∈ pool.queue.sessions, session.Usable

theorem AllUsable.of_queue {pool inner : PingingPool} (usable : pool.AllUsable)
    (queue : inner.queue = pool.queue) : inner.AllUsable := by
  rw [AllUsable, queue]
  exact usable

theorem AllUsable.insert {pool inner : PingingPool} {entry : PingEntry} (usable : pool.AllUsable)
    (queue : inner.queue = pool.queue.insert entry) (fit : entry.session.Usable) :
    inner.AllUsable := by
  intro other member
  rw [queue] at member
  rcases List.mem_cons.1 ((PingQueue.sessions_insert _ _).mem_iff.1 member) with rfl | earlier
  · exact fit
  · exact usable other earlier

theorem AllUsable.shelve {pool : PingingPool} (usable : pool.AllUsable) (now : Instant)
    {session : Session} (fit : session.Usable) : (pool.shelve now session).AllUsable :=
  usable.insert rfl fit

theorem AllUsable.of_pop? {pool : PingingPool} {entry : PingEntry} {queue : PingQueue}
    (popped : pool.queue.pop? = some (entry, queue)) (usable : pool.AllUsable) :
    entry.session.Usable ∧ ({ pool with queue } : PingingPool).AllUsable := by
  rw [AllUsable, PingQueue.sessions_of_pop? popped] at usable
  exact List.forall_mem_cons.1 usable

theorem enqueue_keepsUp_usable :
    Desk.KeepsUp (σ := σ) (fun _ pool => pool.AllUsable) enqueue where
  lasts _ usable := usable
  stores id backend template clock pool usable := by
    apply (enqueue_from _ pool _).mono
    rintro result heard ended ⟨-, ⟨-, rfl⟩ | ⟨-, rfl⟩⟩ stored ok
    · cases ok
      exact usable.shelve _ (Session.usable_of_none rfl)
    · cases ok

theorem bindReserving_usable [Service σ] {pool : PingingPool} (usable : pool.AllUsable)
    (backend : BackendId) (reserved : Nat) :
    (pool.bindReserving (σ := Recorder σ) backend reserved).Hears fun r _ => r.2.AllUsable := by
  let bound : PingingPool := { pool with desk := pool.desk.bind backend }
  refine .anytime fun clock => ?_
  exact Desk.provision_keeps enqueue_byClock enqueue_keepsUp_usable bound.desk
    (pool.size - (pool.queue.size + reserved)) clock bound usable

end PingingPool

namespace TransactionPingingPool

/-- Every session that waits has a new transaction, and none in the queue has one that is
finished. -/
structure Prepared (pool : TransactionPingingPool) : Prop where
  waiting : ∀ session ∈ pool.pending, ∃ t, session.Readied t
  queued : pool.inner.AllUsable

theorem prepared_of_empty {pool : TransactionPingingPool} (queue : pool.inner.queue = .empty)
    (pending : pool.pending = []) : pool.Prepared := by
  constructor
  · rw [pending]
    exact List.forall_mem_nil _
  · rw [PingingPool.AllUsable, queue]
    exact List.forall_mem_nil _

/-- Those that wait may enter the queue. -/
theorem Flushed.prepared {pending : List Session} {inner : PingingPool}
    {result : Except Failure Nat} {after : TransactionPingingPool}
    (flushed : Flushed pending inner result after) :
    (⟨inner, pending⟩ : TransactionPingingPool).Prepared → after.Prepared := by
  induction flushed with
  | done moved => exact id
  | refused full e =>
    exact fun prepared => ⟨(List.forall_mem_cons.1 prepared.waiting).2, prepared.queued⟩
  | moved now room others ih =>
    intro prepared
    obtain ⟨⟨t, readied⟩, rest⟩ := List.forall_mem_cons.1 prepared.waiting
    exact ih ⟨rest, prepared.queued.shelve now readied.usable⟩

variable [Service σ] {pool : TransactionPingingPool}

theorem bind_prepared (prepared : pool.Prepared) (backend : BackendId) :
    (pool.bind (σ := Recorder σ) backend).Hears fun r _ => r.2.Prepared := by
  refine .bind (PingingPool.bindReserving_usable prepared.queued backend pool.pending.length) ?_
  rintro ⟨result, filled⟩ heard usable
  have ready : ({ pool with inner := filled } : TransactionPingingPool).Prepared :=
    ⟨prepared.waiting, usable⟩
  cases result with
  | error e => exact .pure ready
  | ok _ =>
    refine .bind (beginPending_flushed _) ?_
    rintro ⟨moved, after⟩ more ⟨-, flushed⟩
    exact .pure (flushed.prepared ready)

/-- How a session that comes back is put in one of the two queues, or in none. -/
inductive Routed (pool : TransactionPingingPool) (session : Session) :
    Except Failure Unit → TransactionPingingPool → Prop where
  | refused {e inner} (queue : inner.queue = pool.inner.queue) :
      Routed pool session (.error e) ⟨inner, pool.pending⟩
  | waits {ready inner} (lacking : session.Lacking)
      (fresh : (session.setInUse false).newTransaction = .ok ready)
      (queue : inner.queue = pool.inner.queue) :
      Routed pool session (.ok ()) ⟨inner, pool.pending ++ [ready]⟩
  | queued {inner entry} (opened : ¬ session.Lacking)
      (kept : entry.session = session.setInUse false)
      (queue : inner.queue = pool.inner.queue.insert entry) :
      Routed pool session (.ok ()) ⟨inner, pool.pending⟩

omit [Service σ] in
theorem put_routed (pool : TransactionPingingPool) (session : Session) :
    (pool.put (σ := Recorder σ) session).Hears fun r _ => pool.Routed session r.1 r.2 := by
  unfold put
  split
  · exact .pure (.refused rfl)
  split
  next needed =>
    have lacking := session.needsTransaction_iff.1 needed
    dsimp only
    split
    · exact .pure (.refused rfl)
    next ready fresh => exact .pure (.waits lacking fresh rfl)
  next opened =>
    have notLacking := session.needsTransaction_iff.not.1 opened
    refine .map (.bind (PingingPool.enqueue_enqueued (session.setInUse false) _) ?_)
    rintro result heard ⟨-, enqueued⟩
    cases enqueued with
    | stored now room => exact .pure (.queued notLacking rfl rfl)
    | refused full => exact .pure (.refused rfl)

/-- The session waits behind the others, with a transaction of its own to which nothing was done
yet. -/
def Waits (pool : TransactionPingingPool) (session : Session) (after : TransactionPingingPool) :
    Prop :=
  ∃ ready t, ready = { session with inUse := false, transaction := some t } ∧ ready.Readied t ∧
    after.pending = pool.pending ++ [ready] ∧ after.inner.queue = pool.inner.queue

/-- The session is put in the queue as it is. -/
def Queues (pool : TransactionPingingPool) (session : Session) (after : TransactionPingingPool) :
    Prop :=
  ∃ entry, entry.session = { session with inUse := false } ∧
    after.inner.queue = pool.inner.queue.insert entry ∧ after.pending = pool.pending

theorem Waits.not_queues {session : Session} {after : TransactionPingingPool}
    (waits : pool.Waits session after) : ¬ pool.Queues session after := by
  obtain ⟨ready, t, -, -, pending, -⟩ := waits
  rintro ⟨entry, -, -, unchanged⟩
  rw [unchanged] at pending
  exact absurd (congrArg List.length pending) (by simp)

namespace Routed
variable {session : Session} {result : Except Failure Unit} {after : TransactionPingingPool}

omit [Service σ] in
theorem prepared (routed : pool.Routed session result after) (prepared : pool.Prepared) :
    after.Prepared := by
  cases routed with
  | refused queue => exact ⟨prepared.waiting, prepared.queued.of_queue queue⟩
  | waits lacking fresh queue =>
    obtain ⟨t, -, readied⟩ := Session.readied_of_newTransaction fresh
    refine ⟨?_, prepared.queued.of_queue queue⟩
    exact List.forall_mem_append.2 ⟨prepared.waiting, List.forall_mem_singleton.2 ⟨t, readied⟩⟩
  | queued opened kept queue =>
    refine ⟨prepared.waiting, prepared.queued.insert queue ?_⟩
    rw [kept]
    exact Session.usable_of_not_lacking opened

/-- An accepted session waits or is queued by whether it lacks a transaction. -/
theorem by_lack (routed : pool.Routed session (.ok ()) after) :
    (pool.Waits session after ↔ session.Lacking) ∧
      (pool.Queues session after ↔ ¬ session.Lacking) := by
  cases routed with
  | @waits ready inner lacking fresh queue =>
    obtain ⟨t, same, readied⟩ := Session.readied_of_newTransaction fresh
    have waits : pool.Waits session ⟨inner, pool.pending ++ [ready]⟩ :=
      ⟨ready, t, same, readied, rfl, queue⟩
    exact ⟨iff_of_true waits lacking, iff_of_false waits.not_queues (not_not_intro lacking)⟩
  | @queued inner entry opened kept queue =>
    have queues : pool.Queues session ⟨inner, pool.pending⟩ := ⟨entry, kept, queue, rfl⟩
    exact ⟨iff_of_false (fun waits => waits.not_queues queues) opened, iff_of_true queues opened⟩

end Routed
end TransactionPingingPool

/-! The same of a pool that is known to be of this kind. -/

namespace Pool
variable {pool after rest : Pool} {popped : Session} {heard : List Exchange}

/-- A pool that readies transactions, and has readied all that it should. -/
def Prepared : Pool → Prop
  | transactionPinging pool => pool.Prepared
  | _ => False

theorem Prepared.mapDesk (prepared : pool.Prepared) (change : Desk → Desk) :
    (pool.mapDesk change).Prepared := by
  cases pool with
  | transactionPinging pool => exact ⟨prepared.waiting, prepared.queued⟩
  | _ => exact prepared.elim

theorem Prepared.of_pop? (taken : pool.pop? = some (popped, rest)) (prepared : pool.Prepared) :
    popped.Usable ∧ rest.Prepared := by
  cases pool with
  | transactionPinging pool =>
    obtain ⟨⟨entry, queue⟩, first, same⟩ := Option.map_eq_some_iff.1 taken
    cases same
    obtain ⟨usable, others⟩ := PingingPool.AllUsable.of_pop? first prepared.queued
    exact ⟨usable, prepared.waiting, others⟩
  | _ => exact prepared.elim

theorem Prepared.shelve (prepared : pool.Prepared) (now : Instant) {session : Session}
    (usable : session.Usable) : (pool.shelve now session).Prepared := by
  cases pool with
  | transactionPinging pool => exact ⟨prepared.waiting, prepared.queued.shelve now usable⟩
  | _ => exact prepared.elim

/-- What is taken has no transaction that is finished. -/
theorem Took.prepared {got : Except Failure Session} (took : pool.Took got after heard)
    (prepared : pool.Prepared) :
    after.Prepared ∧ ∀ session, got = .ok session → session.Usable := by
  have refused (e : Failure) (session : Session) (ok : .error e = Except.ok session) :
      session.Usable := by
    cases ok
  have handing {session : Session} (usable : session.Usable) (given : Session)
      (ok : Except.ok (session.setInUse true) = (.ok given : Except Failure Session)) :
      given.Usable := by
    cases ok
    exact usable
  cases took with
  | exhausted => exact ⟨prepared, refused _⟩
  | created isBursty empty created => exact ⟨prepared.mapDesk _, handing created.usable⟩
  | notCreated => exact ⟨prepared, refused _⟩
  | handedOut taken vetted =>
    obtain ⟨usable, others⟩ := prepared.of_pop? taken
    exact ⟨others.mapDesk _, handing (vetted.usable usable)⟩
  | lost taken => exact ⟨(prepared.of_pop? taken).2, refused _⟩
  | putBack => exact ⟨prepared, refused _⟩
  | crowdedOut taken => exact ⟨(prepared.of_pop? taken).2, refused _⟩

theorem Pinged.prepared {result : Except Failure Bool} (pinged : pool.Pinged result after heard)
    (prepared : pool.Prepared) : after.Prepared := by
  cases pinged with
  | idle => exact prepared
  | stored now taken refreshed =>
    obtain ⟨usable, others⟩ := prepared.of_pop? taken
    exact others.shelve now (refreshed.usable usable)
  | lost taken => exact (prepared.of_pop? taken).2
  | putBack => exact prepared
  | crowdedOut taken => exact (prepared.of_pop? taken).2

theorem PingedOn.prepared (went : pool.PingedOn after heard) : pool.Prepared → after.Prepared := by
  induction went with
  | done => exact id
  | next pinged rest ih => exact fun prepared => ih (pinged.prepared prepared)

theorem Settled.prepared {result : Except Failure Nat} (settled : Settled pool result after)
    (prepared : pool.Prepared) : after.Prepared := by
  cases settled with
  | nothing => exact prepared
  | flushed flushed => exact flushed.prepared prepared

end Pool

namespace Lending
variable [Service σ]

/-- Whatever is done to a pool, what waits has a new transaction, and what is queued has none that
is finished. -/
theorem step_prepared {l : Lending σ} (prepared : l.pool.Prepared) (op : Op σ) :
    (l.step op).pool.Prepared := by
  have givesBack {place : Nat} (gives : op.GivesBack place) : (l.step op).pool.Prepared := by
    cases found : l.held[place]? with
    | none =>
      rw [step_of_nothing gives found]
      exact prepared
    | some session =>
      rw [(step_givesBack gives found).1]
      obtain ⟨env, pool, held⟩ := l
      cases pool with
      | transactionPinging pool =>
        obtain ⟨_, -, routed⟩ := pool.put_routed session env
        exact routed.prepared prepared
      | _ => exact prepared.elim
  cases op with
  | bind backend =>
    obtain ⟨env, pool, held⟩ := l
    cases pool with
    | transactionPinging pool =>
      obtain ⟨_, -, filled⟩ := pool.bind_prepared prepared backend env
      exact filled
    | _ => exact prepared.elim
  | get timeout =>
    obtain ⟨_, -, took⟩ := l.pool.get_took timeout l.env
    exact (took.prepared prepared).1
  | put place => exact givesBack (.inl rfl)
  | release place => exact givesBack (.inr rfl)
  | clear =>
    obtain ⟨env, pool, held⟩ := l
    cases pool with
    | transactionPinging pool =>
      obtain ⟨_, -, cleared, -⟩ := pool.clear_hears env
      have emptied : (pool.clear env).1.2.Prepared := by
        rw [cleared]
        exact TransactionPingingPool.prepared_of_empty rfl rfl
      exact emptied
    | _ => exact prepared.elim
  | ping =>
    obtain ⟨_, -, pinged⟩ := l.pool.ping_pinged l.env
    exact pinged.prepared prepared
  | pingAllDue =>
    obtain ⟨_, -, went⟩ := l.pool.pingAllDue_pingedOn l.env
    exact went.prepared prepared
  | beginPending =>
    obtain ⟨_, -, -, settled⟩ := l.pool.beginPending_settled l.env
    exact settled.prepared prepared
  | use place use =>
    simp only [step, useBy]
    split
    · exact prepared
    · exact prepared
  | outside change => exact prepared
  | moveClock change => exact prepared

theorem play_prepared (ops : List (Op σ)) :
    ∀ {l : Lending σ}, l.pool.Prepared → (l.play ops).pool.Prepared := by
  induction ops with
  | nil => exact id
  | cons op ops ih => exact fun prepared => ih (step_prepared prepared op)

omit [Service σ] in
theorem startAmong_prepared (strangers : List Session) {parts : PoolParts}
    (kind : parts.kind = .transactionPinging) (clock : Clock) (services : σ) :
    (startAmong strangers parts clock services).pool.Prepared := by
  obtain ⟨_, _⟩ := parts
  cases kind
  exact TransactionPingingPool.prepared_of_empty rfl rfl

/-- In every state that a pool gets into that readies transactions, whatever callers do with what
they hold: each session that waits has a transaction of its own to which nothing was done yet, and
none in the queue has one that is committed or rolled back. A session that is taken back then waits
behind the others if it has no transaction or a finished one, and enters the queue as it is if not.
So what is taken never has a finished one. -/
theorem play_readied (strangers : List Session) (parts : PoolParts)
    (kind : parts.kind = .transactionPinging) (clock : Clock) (services : σ) (ops : List (Op σ)) :
    let l := (startAmong strangers parts clock services).play ops
    ∃ pool, l.pool = .transactionPinging pool ∧
      (∀ session ∈ pool.pending, ∃ t, session.Readied t) ∧
      (∀ session ∈ pool.inner.queue.sessions, session.Usable) ∧
      (∀ session, (l.pool.put session l.env).1.1 = .ok () →
        ∃ after, (l.pool.put session l.env).1.2 = .transactionPinging after ∧
          (pool.Waits session after ↔ session.Lacking) ∧
          (pool.Queues session after ↔ ¬ session.Lacking)) ∧
      ∀ timeout session, (l.pool.get timeout l.env).1.1 = .ok session →
        ∀ t, session.transaction = some t → t.isFinished = false := by
  intro l
  have prepared : l.pool.Prepared :=
    play_prepared ops (startAmong_prepared strangers kind clock services)
  obtain ⟨pool, same⟩ : ∃ pool, l.pool = .transactionPinging pool :=
    Pool.exists_transactionPinging
      ((startAmong_play_kind strangers parts clock services ops).trans kind)
  have ready : pool.Prepared := by
    rw [same] at prepared
    exact prepared
  refine ⟨pool, same, ready.waiting, ready.queued, fun session ok => ?_, ?_⟩
  · obtain ⟨_, -, routed⟩ := pool.put_routed session l.env
    rw [same] at ok ⊢
    have accepted : (pool.put session l.env).1.1 = .ok () := ok
    rw [accepted] at routed
    exact ⟨_, rfl, routed.by_lack⟩
  · intro timeout session got t attached
    obtain ⟨_, -, took⟩ := l.pool.get_took timeout l.env
    exact ((took.prepared prepared).2 session got).notFinished attached

/-- One session came back with a transaction that can be used, and one with a transaction that was
given up; a third has none. -/
theorem play_readied_of_given_up :
    let parts := PoolParts.ofConfig
      { PoolConfig.standard with kind := .transactionPinging, size := 3 }
    let services := Fleet.ofBackends [.reliable (.fresh none none false) 0]
    let readied : Use Fleet := ⟨fun services session =>
      ({ session with transaction := session.id?.map (.fresh · session.backend) }, services),
      fun _ _ => rfl⟩
    let givenUp : Use Fleet := ⟨fun services session =>
      ({ session with transaction := session.replacedTransaction }, services), fun _ _ => rfl⟩
    let ops : List (Op Fleet) := [.bind 0, .get none, .get none, .get none, .use 0 readied,
      .use 1 readied, .use 1 givenUp, .put 0, .put 0]
    let l := (startAmong [] parts .running services).play ops
    parts.kind = .transactionPinging ∧ l.pool.waiting.length = 1 ∧ l.pool.stats.available = 1 ∧
      ∃ pool third after, l.pool = .transactionPinging pool ∧ l.held = [third] ∧
        (∀ session ∈ pool.pending, ∃ t, session.Readied t) ∧
        (∀ session ∈ pool.inner.queue.sessions, session.Usable) ∧
        (l.pool.put third l.env).1 = (.ok (), .transactionPinging after) ∧
        pool.Waits third after := by
  intro parts services readied givenUp ops l
  have waiting : l.pool.waiting.length = 1 := by decide +kernel
  have queued : l.pool.stats.available = 1 := by decide +kernel
  have alone : l.held.length = 1 := by decide +kernel
  have bare : ∀ session ∈ l.held, session.transaction = none := by decide +kernel
  have accepted : ∀ session ∈ l.held, (l.pool.put session l.env).1.1.isOk = true := by
    decide +kernel
  obtain ⟨pool, same, pending, usable, puts, -⟩ := play_readied [] parts rfl .running services ops
  -- The run goes by its name again, lest it be computed wherever it is mentioned.
  have named : l = (startAmong [] parts .running services).play ops := rfl
  rw [← named] at same puts
  obtain ⟨third, held⟩ := List.length_eq_one_iff.1 alone
  have member : third ∈ l.held := held ▸ List.mem_singleton_self third
  have lacking : third.Lacking := by
    intro t attached
    rw [bare third member] at attached
    cases attached
  have ok : (l.pool.put third l.env).1.1 = .ok () := by
    have accepted := accepted third member
    cases put : (l.pool.put third l.env).1.1 with
    | ok _ => rfl
    | error e =>
      rw [put] at accepted
      cases accepted
  obtain ⟨after, left, waits, -⟩ := puts third ok
  exact ⟨rfl, waiting, queued, pool, third, after, same, held, pending, usable,
    Prod.ext ok left, waits.2 lacking⟩

end Lending
end SessionPooling
