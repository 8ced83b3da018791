import SessionPooling.Proofs.Batches
import SessionPooling.Proofs.Flush

/-! Filling the two stores that keep within a size. A stack gets the new sessions on top, one after
another; a queue gets them under its next numbers, each due one interval after it was stored. What
was stored before stays as it was and in the same order. -/
namespace SessionPooling
variable {σ : Type} {backend : BackendId} {template : Template} {begun ended : Instant}
  {ids : List SessionId} {fresh : List Session}

theorem Clock.Passes.spans_between {begun ended : Clock} (passes : begun.Passes ended)
    {time : Instant} (notBefore : begun.now ≤ time) (notAfter : time ≤ ended.now) :
    begun.Spans time ended := by
  refine ⟨notBefore, notAfter, fun still => ?_⟩
  rw [passes.still still] at notAfter
  exact Instant.ext (Int.le_antisymm notAfter notBefore)

/-- A session that was created meanwhile, in a batch, under a name. -/
def Session.BornAs (backend : BackendId) (template : Template) (begun ended : Clock)
    (id : SessionId) (session : Session) : Prop :=
  ∃ time, begun.Spans time ended ∧ session = .existing id backend template time

namespace Desk.InTurn
variable {ρ : Type} {adds : Instant → Session → ρ → ρ} {store after : ρ}

theorem created (inTurn : InTurn adds backend template begun ids fresh store after ended) :
    List.Forall₂ (fun id session => ∃ time, begun ≤ time ∧ time ≤ ended ∧
      session = .existing id backend template time) ids fresh := by
  induction inTurn with
  | done => exact .nil
  | next later thereupon others ih =>
    refine .cons ⟨_, later, Int.le_trans thereupon others.le, rfl⟩ (ih.imp ?_)
    rintro id session ⟨time, after, before, rfl⟩
    exact ⟨time, Int.le_trans later (Int.le_trans thereupon after), before, rfl⟩

theorem born {begun ended : Clock} (passes : begun.Passes ended)
    (inTurn : InTurn adds backend template begun.now ids fresh store after ended.now) :
    List.Forall₂ (Session.BornAs backend template begun ended) ids fresh := by
  refine inTurn.created.imp ?_
  rintro id session ⟨time, after, before, rfl⟩
  exact ⟨time, passes.spans_between after before, rfl⟩

end Desk.InTurn

namespace FixedPool

/-- Puts a session on top of the stack, which does not note when. -/
def shelve (_ : Instant) (session : Session) (pool : FixedPool) : FixedPool :=
  { pool with stored := session :: pool.stored }

/-- A stack of some size with so many free places. -/
def Room (size places : Nat) (pool : FixedPool) : Prop :=
  pool.size = size ∧ pool.stored.length + places = size

theorem push_admits (size : Nat) :
    Desk.Admits (σ := σ) (Room size) shelve (.poolFull size)
      fun session pool => pure (pool.push session) where
  byClock := push_byClock
  refuses session pool room env := by
    obtain ⟨rfl, full⟩ := room
    exact if_pos (Nat.le_of_eq full.symm)
  accepts session pool places room env := by
    obtain ⟨rfl, free⟩ := room
    exact if_neg (by omega)
  fills session pool places room now := by
    obtain ⟨rfl, free⟩ := room
    exact ⟨rfl, (Nat.succ_add_eq_add_succ _ _).trans free⟩

theorem eq_of_inTurn {pool after : FixedPool}
    (inTurn : Desk.InTurn shelve backend template begun ids fresh pool after ended) :
    after = { pool with stored := fresh.reverse ++ pool.stored } := by
  induction inTurn with
  | done => rfl
  | next later thereupon others ih =>
    rw [ih, List.reverse_cons, List.append_assoc]
    rfl

end FixedPool

namespace PingingPool

/-- A queue of some size with so many free places. -/
def Room (size places : Nat) (pool : PingingPool) : Prop :=
  pool.size = size ∧ pool.queue.size + places = size

theorem enqueue_admits (size : Nat) :
    Desk.Admits (σ := σ) (Room size) shelve (.poolFull size) enqueue where
  byClock := enqueue_byClock
  refuses session pool room env := by
    obtain ⟨rfl, full⟩ := room
    exact if_pos (Nat.le_of_eq full.symm)
  accepts session pool places room env := by
    obtain ⟨rfl, free⟩ := room
    exact if_neg (by omega)
  fills session pool places room now := by
    obtain ⟨rfl, free⟩ := room
    refine ⟨rfl, ?_⟩
    have stored : (pool.shelve now session).queue.size = pool.queue.size + 1 :=
      PingQueue.size_insert _ _
    rw [stored]
    exact (Nat.succ_add_eq_add_succ _ _).trans free

theorem takeIn_of_inTurn {pool after : PingingPool}
    (inTurn : Desk.InTurn shelve backend template begun ids fresh pool after ended) :
    ∃ entries, Stamped pool.pingInterval pool.nextSequence begun entries ended ∧
      entries.map (·.session) = fresh ∧ after = pool.takeIn entries := by
  induction inTurn with
  | done passed => exact ⟨[], .nil passed, rfl, rfl⟩
  | next later thereupon others ih =>
    obtain ⟨entries, stamped, sessions, rfl⟩ := ih
    refine ⟨_ :: entries, .cons (Int.le_trans later thereupon) stamped, congrArg _ sessions, ?_⟩
    simp only [takeIn, shelve, PingQueue.insertAll, List.foldl_cons, List.length_cons,
      Nat.add_comm, Nat.add_left_comm]
    rfl

/-- The new sessions come one by one. -/
theorem served_of_inTurn {pool after : PingingPool}
    (inTurn : Desk.InTurn shelve backend template begun ids fresh pool after ended) :
    Served begun pool fresh after ended := by
  induction inTurn with
  | done passed => exact .done passed
  | next later thereupon others ih => exact .comes (Int.le_trans later thereupon) ih

/-- Entries that a queue got in addition to those that it had, under its next numbers. -/
structure Queued (before after : PingingPool) (begun ended : Clock) (added : List PingEntry) :
    Prop where
  due : ∀ entry ∈ added, ∃ time, begun.Spans time ended ∧
    entry.due = time.after before.pingInterval
  numbered : added.map (·.sequence) = List.range' before.nextSequence added.length
  /-- The numbers are above all that were given before. -/
  fewer : ∀ entry ∈ before.queue.entries, entry.sequence < before.nextSequence
  entries : after.queue.entries.Perm (added ++ before.queue.entries)
  inOrder : added.Sublist after.queue.entries
  stored : before.queue.entries.Sublist after.queue.entries
  others : after = { before with
    desk := after.desk, queue := after.queue,
    nextSequence := before.nextSequence + added.length }

theorem takeIn_queued (pool : PingingPool) {begun ended : Clock} {entries : List PingEntry}
    (stamped : Stamped pool.pingInterval pool.nextSequence begun.now entries ended.now)
    (passes : begun.Passes ended) (numbered : pool.Numbered) (desk : Desk) :
    pool.Queued { pool.takeIn entries with desk } begun ended entries := by
  refine ⟨fun entry member => ?_, stamped.sequences, numbered.fewer, ?_, ?_, ?_, rfl⟩
  · obtain ⟨time, later, earlier, due, -⟩ := stamped.due_eq entry member
    exact ⟨time, passes.spans_between later earlier, due⟩
  · exact PingQueue.insertAll_perm _ _
  · exact PingQueue.append_sublist_insertAll [] stamped.inOrder (List.nil_sublist _)
  · exact PingQueue.sublist_insertAll _ _

end PingingPool

/-- A pool after new sessions were stored in it, the first of them first. -/
inductive Pool.FilledWith (fresh : List Session) (begun ended : Clock) : Pool → Pool → Prop where
  | stacked (pool : FixedPool) (desk : Desk) :
      FilledWith fresh begun ended (.fixed pool)
        (.fixed { pool with desk, stored := fresh.reverse ++ pool.stored })
  | queued {pool after : PingingPool} {added : List PingEntry}
      (queued : pool.Queued after begun ended added) (sessions : added.map (·.session) = fresh) :
      FilledWith fresh begun ended (.pinging pool) (.pinging after)

theorem Pool.FilledWith.sessions_perm {pool after : Pool} {begun ended : Clock}
    (filled : pool.FilledWith fresh begun ended after) :
    after.sessions.Perm (fresh ++ pool.sessions) := by
  cases filled with
  | stacked pool desk => exact (List.reverse_perm fresh).append_right pool.stored
  | queued queued sessions =>
    subst sessions
    exact (queued.entries.map _).trans (.of_eq List.map_append)

theorem Pool.FilledWith.sublist {pool after : Pool} {begun ended : Clock}
    (filled : pool.FilledWith fresh begun ended after) : pool.sessions.Sublist after.sessions := by
  cases filled with
  | stacked pool desk => exact List.sublist_append_right _ _
  | queued queued sessions => exact queued.stored.map _

theorem Session.names_of_born {begun ended : Clock}
    (born : List.Forall₂ (Session.BornAs backend template begun ended) ids fresh) :
    fresh.map Session.id? = ids.map some := by
  induction born with
  | nil => rfl
  | cons first others ih =>
    obtain ⟨time, -, rfl⟩ := first
    rw [List.map_cons, List.map_cons, ih]
    rfl

theorem Desk.backend_bind (desk : Desk) (backend : BackendId) :
    (desk.bind backend).backend = some backend := rfl

/-- The numbers in the queue of a pool that has only that. -/
def Pool.Numbered : Pool → Prop
  | pinging pool => pool.Numbered
  | _ => True

variable [Service σ]

theorem FixedPool.bind_inTurn (pool : FixedPool) (fits : pool.stored.length ≤ pool.size)
    (backend : BackendId) (env : Env (Recorder σ)) :
    let template := pool.desk.template.orRole (Service.role backend env.service)
    let bound := pool.bind backend env
    ∃ heard accepted fresh, bound.2.service.heard = env.service.heard ++ heard ∧
      env.clock.Passes bound.2.clock ∧
      Desk.Batches backend template (.poolFull pool.size) (pool.size - pool.stored.length) 0
        accepted bound.1.1 heard ∧
      Desk.InTurn shelve backend template env.clock.now accepted fresh
        { pool with desk := pool.desk.bind backend } bound.1.2 bound.2.clock.now := by
  have room : Room pool.size (pool.size - pool.stored.length)
      { pool with desk := pool.desk.bind backend } := ⟨rfl, Nat.add_sub_of_le fits⟩
  exact Desk.provision_inTurn (push_admits pool.size) (pool.desk.backend_bind backend) _ room env

theorem PingingPool.bind_inTurn (pool : PingingPool) (fits : pool.queue.size ≤ pool.size)
    (backend : BackendId) (env : Env (Recorder σ)) :
    let template := pool.desk.template.orRole (Service.role backend env.service)
    let bound := pool.bind backend env
    ∃ heard accepted fresh, bound.2.service.heard = env.service.heard ++ heard ∧
      env.clock.Passes bound.2.clock ∧
      Desk.Batches backend template (.poolFull pool.size) (pool.size - pool.queue.size) 0
        accepted bound.1.1 heard ∧
      Desk.InTurn shelve backend template env.clock.now accepted fresh
        { pool with desk := pool.desk.bind backend } bound.1.2 bound.2.clock.now := by
  have room : Room pool.size (pool.size - pool.queue.size)
      { pool with desk := pool.desk.bind backend } := ⟨rfl, Nat.add_sub_of_le fits⟩
  exact Desk.provision_inTurn (enqueue_admits pool.size) (pool.desk.backend_bind backend) _ room env

/-- Filling a pool that keeps within its size and stores nothing else: the sessions that were
accepted are added to those that were stored before. -/
theorem Pool.bind_fills {pool : Pool} (kind : pool.kind = .fixed ∨ pool.kind = .pinging)
    (stocked : pool.Stocked) (numbered : pool.Numbered) (backend : BackendId)
    (env : Env (Recorder σ)) :
    let template := pool.desk.template.orRole (Service.role backend env.service)
    let bound := pool.bind backend env
    ∃ heard accepted fresh, bound.2.service.heard = env.service.heard ++ heard ∧
      Desk.Batches backend template (.poolFull pool.capacity)
        (pool.capacity - pool.sessions.length) 0 accepted bound.1.1 heard ∧
      List.Forall₂ (Session.BornAs backend template env.clock bound.2.clock) accepted fresh ∧
      pool.FilledWith fresh env.clock bound.2.clock bound.1.2 := by
  intro template bound
  obtain isFixed | isPinging := kind
  · obtain ⟨stack, rfl⟩ := exists_fixed isFixed
    obtain ⟨heard, accepted, fresh, grown, passes, batches, inTurn⟩ :=
      stack.bind_inTurn (stocked rfl) backend env
    have after : bound.1.2 = _ := congrArg Pool.fixed (FixedPool.eq_of_inTurn inTurn)
    refine ⟨heard, accepted, fresh, grown, batches, inTurn.born passes, ?_⟩
    rw [after]
    exact .stacked stack _
  · obtain ⟨queued, rfl⟩ := exists_pinging isPinging
    obtain ⟨heard, accepted, fresh, grown, passes, batches, inTurn⟩ :=
      queued.bind_inTurn (stocked rfl) backend env
    obtain ⟨added, stamped, sessions, filled⟩ := PingingPool.takeIn_of_inTurn inTurn
    have after : bound.1.2 = _ := congrArg Pool.pinging filled
    have length : (Pool.pinging queued).sessions.length = queued.queue.size :=
      queued.queue.length_sessions
    refine ⟨heard, accepted, fresh, grown, ?_, inTurn.born passes, ?_⟩
    · rw [length]
      exact batches
    · rw [after]
      exact .queued (queued.takeIn_queued stamped passes numbered _) sessions

/-- The same in the terms of what the services were asked for and what came of it. -/
theorem Pool.bind_provisions {pool : Pool} (kind : pool.kind = .fixed ∨ pool.kind = .pinging)
    (stocked : pool.Stocked) (numbered : pool.Numbered)
    (fits : pool.sessions.length ≤ pool.capacity) (backend : BackendId)
    (env : Env (Recorder σ)) :
    let template := pool.desk.template.orRole (Service.role backend env.service)
    let missing := pool.capacity - pool.sessions.length
    let bound := pool.bind backend env
    ∃ heard fresh, bound.2.service.heard = env.service.heard ++ heard ∧
      Desk.Provisioned backend template (.poolFull pool.capacity) missing bound.1.1 heard ∧
      List.Forall₂ (Session.BornAs backend template env.clock bound.2.clock)
        ((idsIssued heard).take missing) fresh ∧
      pool.FilledWith fresh env.clock bound.2.clock bound.1.2 ∧
      (missing ≤ (idsIssued heard).length → bound.1.2.sessions.length = pool.capacity) := by
  intro template missing bound
  obtain ⟨heard, accepted, fresh, grown, batches, born, filled⟩ :=
    bind_fills kind stocked numbered backend env
  rw [batches.accepted_eq, Nat.sub_zero] at born
  refine ⟨heard, fresh, grown, batches.provisioned, born, filled, fun enough => ?_⟩
  have came := born.length_eq
  rw [List.length_take_of_le enough] at came
  rw [filled.sessions_perm.length_eq, List.length_append, ← came]
  exact Nat.sub_add_cancel fits

/-- Two fillings at one time of a pool that keeps within its size leave it the same if they accept
the same names, whatever the batches were. -/
theorem Pool.bind_agrees {pool : Pool} (kind : pool.kind = .fixed ∨ pool.kind = .pinging)
    (stocked : pool.Stocked) (backend : BackendId) (env other : Env (Recorder σ))
    (clock : other.clock = env.clock)
    (role : Service.role backend other.service = Service.role backend env.service) :
    let template := pool.desk.template.orRole (Service.role backend env.service)
    let missing := pool.capacity - pool.sessions.length
    let bound := pool.bind backend env
    let again := pool.bind backend other
    ∃ heard more accepted same, bound.2.service.heard = env.service.heard ++ heard ∧
      again.2.service.heard = other.service.heard ++ more ∧
      Desk.Batches backend template (.poolFull pool.capacity) missing 0 accepted bound.1.1 heard ∧
      Desk.Batches backend template (.poolFull pool.capacity) missing 0 same again.1.1 more ∧
      (accepted = same → again.1.2 = bound.1.2) := by
  intro template missing bound again
  obtain isFixed | isPinging := kind
  · obtain ⟨stack, rfl⟩ := exists_fixed isFixed
    have room : FixedPool.Room stack.size missing
        { stack with desk := stack.desk.bind backend } := ⟨rfl, Nat.add_sub_of_le (stocked rfl)⟩
    obtain ⟨heard, more, accepted, same, grown, grownToo, batches, batchesToo, agrees⟩ :=
      Desk.provision_agrees (FixedPool.push_admits stack.size) (stack.desk.backend_bind backend)
        missing room clock role
    exact ⟨heard, more, accepted, same, grown, grownToo, batches, batchesToo,
      fun accepts => congrArg Pool.fixed (agrees accepts)⟩
  · obtain ⟨queued, rfl⟩ := exists_pinging isPinging
    have length : (Pool.pinging queued).sessions.length = queued.queue.size :=
      queued.queue.length_sessions
    have stored : queued.queue.size ≤ queued.size := stocked rfl
    have room : PingingPool.Room queued.size (queued.size - queued.queue.size)
        { queued with desk := queued.desk.bind backend } := ⟨rfl, Nat.add_sub_of_le stored⟩
    obtain ⟨heard, more, accepted, same, grown, grownToo, batches, batchesToo, agrees⟩ :=
      Desk.provision_agrees (PingingPool.enqueue_admits queued.size)
        (queued.desk.backend_bind backend) _ room clock role
    have missing_eq : missing = queued.size - queued.queue.size := congrArg _ length
    rw [missing_eq]
    exact ⟨heard, more, accepted, same, grown, grownToo, batches, batchesToo,
      fun accepts => congrArg Pool.pinging (agrees accepts)⟩

end SessionPooling
