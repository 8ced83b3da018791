import SessionPooling.Proofs.Custody

/-! What arrives when a pool is filled. A store that has room for all that it lacks takes in every
session that a service creates for it, as long as the service creates no more than it is asked
for; so also when filling fails midway, nothing that was created is missing. -/
namespace SessionPooling
variable {σ ρ : Type}

namespace Desk

/-- A way to store sessions that refuses none while the store holds fewer than it has places. -/
def Welcomes (view : ρ → List Session) (keeps : ρ → Prop) (places : Nat)
    (intake : Intake (Recorder σ) ρ) : Prop :=
  ∀ session store, keeps store → (intake session store).Hears fun result _ =>
    (view store).length < places → ∃ stored, result = .ok stored

/-- Just those sessions came in that a service created meanwhile. -/
def Supplied (backend : BackendId) (before after : List Session) (heard : List Exchange) : Prop :=
  ∃ fresh : List Session, after.Perm (fresh ++ before) ∧
    fresh.map Session.handle = (idsIssued heard).map fun id => (backend, some id)

section
variable {backend : BackendId} {before after : List Session} {heard : List Exchange}

theorem Supplied.nothing (sessions : List Session) (quiet : idsIssued heard = []) :
    Supplied backend sessions sessions heard := by
  refine ⟨[], .refl _, ?_⟩
  rw [quiet]
  rfl

theorem Supplied.congr {before' after' : List Session}
    (supplied : Supplied backend before after heard) (others : List Session)
    (first : (before ++ others).Perm before') (last : (after ++ others).Perm after') :
    Supplied backend before' after' heard := by
  obtain ⟨fresh, grown, handles⟩ := supplied
  refine ⟨fresh, ?_, handles⟩
  have moved : (after ++ others).Perm (fresh ++ (before ++ others)) := by
    rw [← List.append_assoc]
    exact grown.append_right others
  exact last.symm.trans (moved.trans (first.append_left fresh))

theorem Supplied.custody {live liveAfter : List SessionId}
    (supplied : Supplied backend before after heard)
    (ledger : Ledger backend live heard liveAfter) :
    Custody backend before after live liveAfter := by
  obtain ⟨fresh, grown, handles⟩ := supplied
  have names : fresh.map Session.id? = (idsIssued heard).map some := by
    have seconds := congrArg (List.map Prod.snd) handles
    rwa [List.map_map, List.map_map] at seconds
  have home : Session.OnlyAt backend fresh := by
    intro session member
    have handle : session.handle ∈ fresh.map Session.handle := List.mem_map_of_mem member
    rw [handles] at handle
    obtain ⟨id, -, same⟩ := List.mem_map.1 handle
    exact (congrArg Prod.fst same).symm
  have arrived : Custody backend [] fresh live liveAfter := by
    refine .arrived home fun id member => ?_
    rw [names]
    exact (List.mem_append.1 (ledger.sourced member)).imp_left List.mem_map_of_mem
  exact (arrived.append_right before).congr (.refl _) (grown.symm.map _)

end

variable {view : ρ → List Session} {keeps : ρ → Prop} {places : Nat}
  {intake : Intake (Recorder σ) ρ}

/-- A store that has room for all that is missing refuses none. -/
theorem Rounds.supplied {backend : BackendId} {template : Template} {requested : Nat}
    {clock ended : Clock} {store after : ρ} {result : Except Failure Nat} {heard : List Exchange}
    (stores : StoresInto view keeps intake) (welcomes : Welcomes view keeps places intake)
    (rounds : Rounds intake backend template requested 0 clock store result after heard ended)
    (kept : keeps store) (measured : Measured heard)
    (room : (view store).length + requested ≤ places) :
    Supplied backend (view store) (view after) heard := by
  obtain ⟨keptAfter, fresh, grown, names, left⟩ := rounds.entered stores kept
  have issued := rounds.issued_le measured
  have all : (idsIssued heard).length ≤ fresh.length := by
    refine Nat.le_of_not_lt fun fewer => ?_
    obtain ⟨-, session, env, e, told⟩ := left fewer
    obtain ⟨_, -, welcome⟩ := welcomes session after keptAfter env
    rw [told, grown.length_eq, List.length_append] at welcome
    obtain ⟨_, impossible⟩ := welcome (by omega)
    cases impossible
  refine ⟨fresh, grown, names.eq_of_length_le ?_⟩
  rwa [List.length_map, List.length_map]

theorem Provisions.supplied {desk : Desk} {role : BackendId → Option String} {requested : Nat}
    {clock ended : Clock} {store after : ρ} {result : Except Failure Unit} {heard : List Exchange}
    {backend : BackendId} (stores : StoresInto view keeps intake)
    (welcomes : Welcomes view keeps places intake)
    (provisions : Provisions intake desk role requested clock store result after heard ended)
    (bound : desk.backend = some backend) (kept : keeps store) (measured : Measured heard)
    (room : (view store).length + requested ≤ places) :
    Supplied backend (view store) (view after) heard := by
  cases provisions with
  | full => exact .nothing _ rfl
  | unbound => exact .nothing _ rfl
  | rounds missing found rounds =>
    obtain rfl := Option.some.inj (found.symm.trans bound)
    exact rounds.supplied stores welcomes kept measured room

variable [Service σ]

theorem provision_supplied (byClock : ∀ session store, (intake session store).ByClock)
    (stores : StoresInto view keeps intake) (welcomes : Welcomes view keeps places intake)
    (desk : Desk) (backend : BackendId) (bound : desk.backend = some backend) (requested : Nat)
    (store : ρ) (kept : keeps store) :
    (desk.provision intake requested store).Hears fun r heard => Measured heard →
      (view store).length + requested ≤ places →
        Supplied backend (view store) (view r.2) heard := by
  intro env
  obtain ⟨heard, grown, -, provisions⟩ := provision_provisions byClock desk requested store env
  refine ⟨heard, grown, fun measured room => ?_⟩
  exact provisions.supplied stores welcomes bound kept measured room

end Desk

section
variable [Service σ]

theorem FixedPool.bind_supplied (pool : FixedPool) (backend : BackendId)
    (fits : pool.stored.length ≤ pool.size) :
    (pool.bind (σ := Recorder σ) backend).Hears fun r heard => Desk.Measured heard →
      Desk.Supplied backend pool.stored r.2.stored heard := by
  have welcomes : Desk.Welcomes (σ := σ) FixedPool.stored
      ({ pool with desk := pool.desk.bind backend } : FixedPool).FilledFrom pool.size
      fun session pool => pure (pool.push session) := by
    refine fun session store kept => .pure fun room => ?_
    have notFull : ¬ store.size ≤ store.stored.length := by
      rw [kept.size]
      exact Nat.not_le_of_lt room
    exact ⟨_, if_neg notFull⟩
  refine (Desk.provision_supplied push_byClock (push_storesInto _) welcomes _ backend rfl _ _
    ⟨rfl, rfl, id⟩).mono fun r heard supplied measured => supplied measured ?_
  dsimp only
  omega

theorem PingingPool.bindReserving_supplied (pool : PingingPool) (backend : BackendId)
    (reserved : Nat) (fits : pool.queue.size ≤ pool.size) :
    (pool.bindReserving (σ := Recorder σ) backend reserved).Hears fun r heard =>
      Desk.Measured heard →
        Desk.Supplied backend pool.queue.sessions r.2.queue.sessions heard := by
  have welcomes : Desk.Welcomes (σ := σ) (fun pool : PingingPool => pool.queue.sessions)
      ({ pool with desk := pool.desk.bind backend } : PingingPool).FilledFrom pool.size
      enqueue := by
    refine fun session store kept => (store.enqueue_enqueued session).mono ?_
    rintro result heard ⟨-, enqueued⟩ room
    cases enqueued with
    | stored now free => exact ⟨_, rfl⟩
    | refused full =>
      rw [kept.size, ← PingQueue.length_sessions] at full
      exact (Nat.not_le_of_lt room full).elim
  refine (Desk.provision_supplied enqueue_byClock (enqueue_storesInto _) welcomes _ backend rfl
    _ _ ⟨rfl, rfl, id⟩).mono fun r heard supplied measured => supplied measured ?_
  rw [PingQueue.length_sessions]
  dsimp only
  omega

theorem TransactionPingingPool.bind_supplied (pool : TransactionPingingPool) (backend : BackendId)
    (fits : pool.inner.queue.size + pool.pending.length ≤ pool.inner.size) :
    (pool.bind (σ := Recorder σ) backend).Hears fun r heard => Desk.Measured heard →
      Desk.Supplied backend (pool.inner.queue.sessions ++ pool.pending)
        (r.2.inner.queue.sessions ++ r.2.pending) heard := by
  obtain ⟨inner, pending⟩ := pool
  refine .bind ((inner.bindReserving_filled backend pending.length).and
    (inner.bindReserving_supplied backend pending.length (by dsimp only at fits; omega))) ?_
  rintro ⟨result, filled⟩ heard ⟨fills, supplied⟩
  cases result with
  | error e =>
    exact .pure fun measured => (supplied measured).congr pending (.refl _) (.refl _)
  | ok _ =>
    refine .bind (beginPending_flushed ⟨filled, pending⟩) ?_
    rintro ⟨moved, after⟩ _ ⟨rfl, flushed⟩
    rw [List.append_nil]
    refine .pure fun measured => ?_
    have total : filled.queue.size + pending.length ≤ filled.size := by
      rw [fills.kept.size]
      exact fills.spares measured fits
    exact (supplied measured).congr pending (.refl _) (flushed.sessions total).symm

/-- Filling a pool that has no more sessions than places stores just what is created for it. -/
theorem Pool.bind_supplied (pool : Pool) (backend : BackendId)
    (fits : pool.bounded → pool.sessions.length ≤ pool.capacity) :
    (pool.bind (σ := Recorder σ) backend).Hears fun r heard => Desk.Measured heard →
      Desk.Supplied backend pool.sessions r.2.sessions heard := by
  cases pool with
  | fixed pool => exact .map (pool.bind_supplied backend (fits rfl))
  | bursty pool => exact .pure fun _ => .nothing _ rfl
  | pinging pool =>
    have free := fits rfl
    rw [sessions, PingQueue.length_sessions] at free
    exact .map (pool.bindReserving_supplied backend 0 free)
  | transactionPinging pool =>
    have free := fits rfl
    rw [sessions, List.length_append, PingQueue.length_sessions] at free
    exact .map (pool.bind_supplied backend free)

end
end SessionPooling
