import SessionPooling.Proofs.Draining
import SessionPooling.Proofs.LockStep
import SessionPooling.Proofs.PoolStore

/-! Pools beside services that tell the same. Every operation of a pool goes the same way with the
one as with the other: it answers alike and leaves the pool in the same state. For the pool around
a queue this holds also for a twin of it, whose desk may count the sessions that are out otherwise
and report them under another name. -/
namespace SessionPooling
variable {σ ρ α : Type} [Service σ] {R : Clock → σ → σ → Prop}

/-- The same answer, and states that are related. -/
def Both (T : ρ → ρ → Prop) (ended other : α × ρ) : Prop := ended.1 = other.1 ∧ T ended.2 other.2

theorem Both.of_eq {ended other : α × ρ} (same : ended = other) : Both Eq ended other :=
  ⟨congrArg Prod.fst same, congrArg Prod.snd same⟩

theorem Both.eq_of {T : ρ → ρ → Prop} {ended other : α × ρ}
    (equal : ∀ {state next}, T state next → state = next) (both : Both T ended other) :
    ended = other :=
  Prod.ext both.1 (equal both.2)

/-- How two stores that are related take in a session. -/
inductive StoredAlike (T : ρ → ρ → Prop) : Except Failure ρ → Except Failure ρ → Prop where
  | stored {store other} (related : T store other) : StoredAlike T (.ok store) (.ok other)
  | refused (e) : StoredAlike T (.error e) (.error e)

theorem StoredAlike.of_eq {result : Except Failure ρ} : StoredAlike Eq result result := by
  cases result with
  | ok store => exact .stored rfl
  | error e => exact .refused e

namespace Desk

/-- Desks that ask the same service for the same sessions. -/
structure Peer (desk other : Desk) : Prop where
  template : desk.template = other.template
  backend : desk.backend = other.backend

theorem Peer.refl (desk : Desk) : desk.Peer desk := ⟨rfl, rfl⟩

variable {desk other : Desk} {T : ρ → ρ → Prop} {intake intake' : Intake σ ρ}

theorem resolvedTemplate_inStep (alike : TellsAlike R) (peer : desk.Peer other)
    (backend : BackendId) :
    (desk.resolvedTemplate backend).InStep R (other.resolvedTemplate backend) Eq := by
  unfold resolvedTemplate
  rw [peer.template]
  refine .bind (.roleOf alike backend) ?_
  rintro fallback _ rfl
  exact .pure rfl

theorem create_inStep (alike : TellsAlike R) (peer : desk.Peer other) :
    desk.create.InStep R other.create Eq := by
  unfold create
  rw [← peer.backend]
  cases desk.backend with
  | none => exact .pure rfl
  | some backend =>
    refine .bind (resolvedTemplate_inStep alike peer backend) ?_
    rintro template _ rfl
    refine .bind (.now alike) ?_
    rintro now _ rfl
    refine .bind (Session.create_inStep alike _) ?_
    rintro created _ rfl
    cases created with
    | error e => exact .pure rfl
    | ok session => exact .bind (.report _ _) fun _ _ _ => .pure rfl

theorem replace_inStep (alike : TellsAlike R) (peer : desk.Peer other) (stale : Session) :
    (desk.replace stale).InStep R (other.replace stale) Eq :=
  .bind (.report _ _) fun _ _ _ => create_inStep alike peer

theorem deleteAll_inStep (alike : TellsAlike R) (desk other : Desk) (sessions : List Session) :
    (desk.deleteAll sessions).InStep R (other.deleteAll sessions) Eq := by
  induction sessions with
  | nil => exact .pure rfl
  | cons session rest ih =>
    refine .bind (session.deleteQuietly_inStep alike) ?_
    rintro reply _ rfl
    cases reply with
    | ok _ =>
      refine .bind ih ?_
      rintro others _ rfl
      exact .pure rfl
    | error e => exact .bind (.report _ _) fun _ _ _ => .bind ih fun _ _ _ => .pure rfl

theorem dismissAll_inStep (alike : TellsAlike R) (desk other : Desk) (sessions : List Session)
    {left left' : ρ} (related : T left left') :
    (desk.dismissAll (σ := σ) sessions left).InStep R (other.dismissAll sessions left')
      (Both T) := by
  refine .bind (deleteAll_inStep alike desk other sessions) ?_
  rintro deleted _ rfl
  cases deleted with
  | error e => exact .pure ⟨rfl, related⟩
  | ok deleted => exact .bind (.report _ _) fun _ _ _ => .pure ⟨rfl, related⟩

/-- Stores that are related stay related when they take in the same session. -/
def TakesInStep (R : Clock → σ → σ → Prop) (T : ρ → ρ → Prop) (intake intake' : Intake σ ρ) : Prop :=
  ∀ session store store', T store store' →
    (intake session store).InStep R (intake' session store') (StoredAlike T)

theorem storeAll_inStep (alike : TellsAlike R) (takes : TakesInStep R T intake intake')
    (backend : BackendId) (template : Template) (ids : List SessionId) :
    ∀ store store', T store store' →
      (storeAll intake backend template ids store).InStep R
        (storeAll intake' backend template ids store') (Both T) := by
  induction ids with
  | nil => exact fun store store' related => .pure ⟨rfl, related⟩
  | cons id rest ih =>
    intro store store' related
    refine .bind (.now alike) ?_
    rintro now _ rfl
    refine .bind (takes _ store store' related) ?_
    rintro _ _ (⟨relatedNext⟩ | e)
    · exact ih _ _ relatedNext
    · exact .pure ⟨rfl, related⟩

theorem provisionRounds_inStep (alike : TellsAlike R) (takes : TakesInStep R T intake intake')
    (desk other : Desk) (backend : BackendId) (template : Template) (requested rounds : Nat) :
    ∀ created store store', T store store' →
      (desk.provisionRounds intake backend template requested rounds created store).InStep R
        (other.provisionRounds intake' backend template requested rounds created store')
        (Both T) := by
  induction rounds with
  | zero => exact fun created store store' related => .pure ⟨rfl, related⟩
  | succ rounds ih =>
    intro created store store' related
    unfold provisionRounds
    split
    case isFalse => exact .pure ⟨rfl, related⟩
    case isTrue =>
      refine .bind (.ask alike _ _) ?_
      rintro reply _ rfl
      match reply with
      | .error e => exact .pure ⟨rfl, related⟩
      | .ok [] => exact .pure ⟨rfl, related⟩
      | .ok (id :: more) =>
        refine .bind (.report _ _) fun _ _ _ => ?_
        refine .bind
          (storeAll_inStep alike takes backend template (id :: more) store store' related) ?_
        rintro ⟨ended, next⟩ ⟨_, next'⟩ ⟨rfl, relatedNext⟩
        cases ended with
        | error e => exact .pure ⟨rfl, relatedNext⟩
        | ok _ => exact ih _ next next' relatedNext

theorem provision_inStep (alike : TellsAlike R) (takes : TakesInStep R T intake intake')
    (peer : desk.Peer other) (requested : Nat) {store store' : ρ} (related : T store store') :
    (desk.provision intake requested store).InStep R (other.provision intake' requested store')
      (Both T) := by
  unfold provision
  rw [← peer.backend]
  split
  · exact .bind (.report _ _) fun _ _ _ => .pure ⟨rfl, related⟩
  cases desk.backend with
  | none => exact .pure ⟨rfl, related⟩
  | some backend =>
    refine .bind (resolvedTemplate_inStep alike peer backend) ?_
    rintro template _ rfl
    refine .bind (.report _ _) fun _ _ _ => ?_
    refine .bind (provisionRounds_inStep alike takes desk other backend template requested
      requested 0 store store' related) ?_
    rintro ⟨result, filled⟩ ⟨_, filled'⟩ ⟨rfl, relatedNext⟩
    cases result with
    | error e => exact .pure ⟨rfl, relatedNext⟩
    | ok total => exact .bind (.report _ _) fun _ _ _ => .pure ⟨rfl, relatedNext⟩

end Desk

namespace FixedPool

theorem bind_inStep (alike : TellsAlike R) (pool : FixedPool) (backend : BackendId) :
    (pool.bind backend).InStep R (pool.bind backend) Eq := by
  refine .mono (Desk.provision_inStep alike ?_ (.refl _) _ rfl) fun _ _ both => both.eq_of id
  rintro session store _ rfl
  exact .pure .of_eq

omit [Service σ] in
theorem restore_inStep (pool : FixedPool) (session : Session) :
    (pool.restore (σ := σ) session).InStep R (pool.restore session) Eq := by
  unfold restore
  cases pool.push session with
  | ok next => exact .pure rfl
  | error e => exact .bind (.report _ _) fun _ _ _ => .pure rfl

theorem revalidate_inStep (alike : TellsAlike R) (pool : FixedPool) (session : Session) :
    (pool.revalidate session).InStep R (pool.revalidate session) Eq := by
  unfold revalidate
  refine .bind (.now alike) ?_
  rintro now _ rfl
  split
  · exact .pure rfl
  refine .bind (session.exists?_inStep alike) fun told other same => ?_
  refine .onVerdict same (.pure rfl) ?_ fun e => ?_
  · refine .bind (Desk.replace_inStep alike (.refl _) session) ?_
    rintro replacement _ rfl
    exact .pure rfl
  · refine .bind (pool.restore_inStep session) ?_
    rintro next _ rfl
    exact .pure rfl

theorem get_inStep (alike : TellsAlike R) (pool : FixedPool) (timeout : Option Duration) :
    (pool.get timeout).InStep R (pool.get timeout) Eq := by
  unfold get
  split
  · exact .pure rfl
  refine .bind (revalidate_inStep alike _ _) ?_
  rintro ⟨result, next⟩ _ rfl
  cases result with
  | error e => exact .pure rfl
  | ok session => exact .bind (.report _ _) fun _ _ _ => .pure rfl

theorem clear_inStep (alike : TellsAlike R) (pool : FixedPool) :
    pool.clear.InStep R pool.clear Eq := by
  rw [clear_eq]
  exact .mono (Desk.dismissAll_inStep alike pool.desk pool.desk pool.stored rfl)
    fun _ _ both => both.eq_of id

end FixedPool

namespace BurstyPool

omit [Service σ] in
theorem handOutNew_inStep (pool : BurstyPool) (created : Except Failure Session) :
    (pool.handOutNew created).InStep R (pool.handOutNew created) Eq := by
  cases created with
  | error e => exact .pure rfl
  | ok session => exact .bind (.report _ _) fun _ _ _ => .pure rfl

theorem get_inStep (alike : TellsAlike R) (pool : BurstyPool) :
    pool.get.InStep R pool.get Eq := by
  unfold get
  split
  · refine .bind (Desk.create_inStep alike (.refl _)) ?_
    rintro created _ rfl
    exact pool.handOutNew_inStep created
  next session taken popped =>
    refine .bind (session.exists?_inStep alike) fun told other same => ?_
    refine .onVerdict same ?_ ?_ fun e => .pure rfl
    · exact .bind (.report _ _) fun _ _ _ => .pure rfl
    · refine .bind (Desk.replace_inStep alike (.refl _) session) ?_
      rintro created _ rfl
      exact handOutNew_inStep _ created

theorem put_inStep (alike : TellsAlike R) (pool : BurstyPool) (session : Session) :
    (pool.put session).InStep R (pool.put session) Eq := by
  unfold put
  dsimp only
  split
  · exact .pure rfl
  refine .bind (.report _ _) fun _ _ _ => ?_
  refine .bind (Session.deleteQuietly_inStep alike _) ?_
  rintro reply _ rfl
  cases reply with
  | ok _ => exact .pure rfl
  | error e => exact .bind (.report _ _) fun _ _ _ => .pure rfl

theorem clear_inStep (alike : TellsAlike R) (pool : BurstyPool) :
    pool.clear.InStep R pool.clear Eq := by
  rw [clear_eq]
  exact .mono (Desk.dismissAll_inStep alike pool.desk pool.desk pool.stored rfl)
    fun _ _ both => both.eq_of id

end BurstyPool

/-- What two desks have to have in common for their pools to go in step. -/
structure Desk.Counts (D : Desk → Desk → Prop) : Prop where
  peer : ∀ {desk other}, D desk other → desk.Peer other
  bind : ∀ {desk other}, D desk other → ∀ backend, D (desk.bind backend) (other.bind backend)
  countOut : ∀ {desk other}, D desk other → D desk.countOut other.countOut
  countIn : ∀ {desk other}, D desk other → D desk.countIn other.countIn

theorem Desk.Counts.eq : Desk.Counts Eq where
  peer := by rintro desk _ rfl; exact .refl desk
  bind := by rintro desk _ rfl _; rfl
  countOut := by rintro desk _ rfl; rfl
  countIn := by rintro desk _ rfl; rfl

namespace PingingPool

/-- Pools that differ only in their desks. -/
inductive Twin (D : Desk → Desk → Prop) (pool : PingingPool) : PingingPool → Prop where
  | withDesk {desk} (related : D pool.desk desk) : Twin D pool { pool with desk }

theorem Twin.refl (pool : PingingPool) : pool.Twin Eq pool := .withDesk rfl

theorem Twin.eq {pool other : PingingPool} (twin : pool.Twin Eq other) : pool = other := by
  obtain ⟨rfl⟩ := twin
  rfl

variable {D : Desk → Desk → Prop} {pool other : PingingPool}

theorem enqueue_inStep (alike : TellsAlike R) :
    Desk.TakesInStep (σ := σ) R (Twin D) enqueue enqueue := by
  rintro session pool _ ⟨related⟩
  refine .bind (.now alike) ?_
  rintro now _ rfl
  refine .pure ?_
  unfold enqueueAt
  dsimp only
  split
  · exact .refused _
  · exact .stored (.withDesk related)

theorem bindReserving_inStep (alike : TellsAlike R) (counts : Desk.Counts D)
    (twin : pool.Twin D other) (backend : BackendId) (reserved : Nat) :
    (pool.bindReserving backend reserved).InStep R (other.bindReserving backend reserved)
      (Both (Twin D)) := by
  obtain ⟨related⟩ := twin
  have bound := counts.bind related backend
  exact Desk.provision_inStep alike (enqueue_inStep alike) (counts.peer bound) _ (.withDesk bound)

omit [Service σ] in
theorem handOut_inStep (counts : Desk.Counts D) (twin : pool.Twin D other) (session : Session) :
    (pool.handOut (σ := σ) session).InStep R (other.handOut session) (Both (Twin D)) := by
  obtain ⟨related⟩ := twin
  refine .bind (.report _ _) fun _ _ _ => .pure ⟨rfl, ?_⟩
  exact .withDesk (counts.countOut related)

theorem handOutReplacement_inStep (alike : TellsAlike R) (counts : Desk.Counts D)
    (twin : pool.Twin D other) (stale : Session) :
    (pool.handOutReplacement stale).InStep R (other.handOutReplacement stale) (Both (Twin D)) := by
  obtain ⟨related⟩ := twin
  refine .bind (Desk.replace_inStep alike (counts.peer related) stale) ?_
  rintro replacement _ rfl
  cases replacement with
  | error e => exact .pure ⟨rfl, .withDesk related⟩
  | ok session => exact handOut_inStep counts (.withDesk related) session

theorem get_inStep (alike : TellsAlike R) (counts : Desk.Counts D) (twin : pool.Twin D other)
    (timeout : Option Duration) :
    (pool.get timeout).InStep R (other.get timeout) (Both (Twin D)) := by
  obtain ⟨related⟩ := twin
  unfold get
  dsimp only
  split
  · exact .pure ⟨rfl, .withDesk related⟩
  next entry queue popped =>
    have taken {desk : Desk} (related : D pool.desk desk) :
        ({ pool with queue } : PingingPool).Twin D { pool with desk, queue } := .withDesk related
    refine .bind (.now alike) ?_
    rintro now _ rfl
    split
    · refine .bind (entry.session.exists?_inStep alike) fun told other same => ?_
      refine .onVerdict same ?_ ?_ fun e => ?_
      · exact handOut_inStep counts (taken related) entry.session
      · exact handOutReplacement_inStep alike counts (taken related) entry.session
      · exact .pure ⟨rfl, .withDesk related⟩
    · exact handOut_inStep counts (taken related) entry.session

theorem put_inStep (alike : TellsAlike R) (counts : Desk.Counts D) (twin : pool.Twin D other)
    (session : Session) :
    (pool.put (σ := σ) session).InStep R (other.put session) (Both (Twin D)) := by
  obtain ⟨related⟩ := twin
  have returned := counts.countIn related
  refine .bind (enqueue_inStep alike (session.setInUse false) _ _ (.withDesk returned)) ?_
  rintro _ _ (⟨relatedNext⟩ | e)
  · exact .pure ⟨rfl, relatedNext⟩
  · exact .pure ⟨rfl, .withDesk returned⟩

theorem clear_inStep (alike : TellsAlike R) (twin : pool.Twin D other) :
    pool.clear.InStep R other.clear (Both (Twin D)) := by
  obtain @⟨desk, related⟩ := twin
  rw [clear_eq, clear_eq]
  exact Desk.dismissAll_inStep alike pool.desk desk pool.queue.sessions (.withDesk related)

theorem storeRefreshed_inStep (alike : TellsAlike R) (twin : pool.Twin D other)
    (session : Session) :
    (pool.storeRefreshed (σ := σ) session).InStep R (other.storeRefreshed session)
      (Both (Twin D)) := by
  refine .bind (.report _ _) fun _ _ _ => ?_
  refine .bind (enqueue_inStep alike session pool other twin) ?_
  rintro _ _ (⟨relatedNext⟩ | e)
  · exact .pure ⟨rfl, relatedNext⟩
  · exact .pure ⟨rfl, twin⟩

theorem ping_inStep (alike : TellsAlike R) (counts : Desk.Counts D) (twin : pool.Twin D other) :
    pool.ping.InStep R other.ping (Both (Twin D)) := by
  obtain ⟨related⟩ := twin
  unfold ping
  dsimp only
  split
  · exact .pure ⟨rfl, .withDesk related⟩
  next entry queue popped =>
    have taken {desk : Desk} (related : D pool.desk desk) :
        ({ pool with queue } : PingingPool).Twin D { pool with desk, queue } := .withDesk related
    refine .bind (.now alike) ?_
    rintro now _ rfl
    split
    · exact .pure ⟨rfl, .withDesk related⟩
    refine .bind (entry.session.ping_inStep alike) ?_
    rintro reply _ rfl
    cases reply with
    | ok session => exact storeRefreshed_inStep alike (taken related) session
    | error e =>
      dsimp only
      split
      · refine .bind (Desk.replace_inStep alike (counts.peer related) entry.session) ?_
        rintro replacement _ rfl
        cases replacement with
        | error e => exact .pure ⟨rfl, taken related⟩
        | ok session => exact storeRefreshed_inStep alike (taken related) session
      · exact .pure ⟨rfl, .withDesk related⟩

theorem pingRounds_inStep (alike : TellsAlike R) (counts : Desk.Counts D) (rounds : Nat) :
    ∀ (refreshed : Nat) (pool other : PingingPool), pool.Twin D other →
      (pingRounds rounds refreshed pool).InStep R (pingRounds rounds refreshed other)
        (Both (Twin D)) := by
  induction rounds with
  | zero => exact fun refreshed pool other twin => .pure ⟨rfl, twin⟩
  | succ rounds ih =>
    intro refreshed pool other twin
    refine .bind (ping_inStep alike counts twin) ?_
    rintro ⟨result, next⟩ ⟨_, next'⟩ ⟨rfl, twinNext⟩
    match result with
    | .error e => exact .pure ⟨rfl, twinNext⟩
    | .ok false => exact .pure ⟨rfl, twinNext⟩
    | .ok true => exact ih (refreshed + 1) next next' twinNext

theorem pingAllDue_inStep (alike : TellsAlike R) (counts : Desk.Counts D)
    (twin : pool.Twin D other) :
    pool.pingAllDue.InStep R other.pingAllDue (Both (Twin D)) := by
  obtain ⟨related⟩ := twin
  exact pingRounds_inStep alike counts pool.size 0 pool _ (.withDesk related)

end PingingPool

omit [Service σ] in
theorem PingingPool.inStep_of_twin {work : Act σ (α × PingingPool)}
    (inStep : work.InStep R work (Both (Twin Eq))) : work.InStep R work Eq :=
  inStep.mono fun _ _ both => both.eq_of Twin.eq

namespace TransactionPingingPool

theorem flush_inStep (alike : TellsAlike R) (pending : List Session) :
    ∀ (moved : Nat) (inner : PingingPool),
      (flush (σ := σ) pending moved inner).InStep R (flush pending moved inner) Eq := by
  induction pending with
  | nil => exact fun moved inner => .pure rfl
  | cons session rest ih =>
    intro moved inner
    refine .bind (PingingPool.enqueue_inStep alike session inner inner (.refl inner)) ?_
    rintro _ _ (⟨twin⟩ | e)
    · obtain rfl := twin.eq
      exact ih _ _
    · exact .pure rfl

theorem beginPending_inStep (alike : TellsAlike R) (pool : TransactionPingingPool) :
    (pool.beginPending (σ := σ)).InStep R pool.beginPending Eq := by
  refine .bind (flush_inStep alike pool.pending 0 pool.inner) ?_
  rintro ⟨result, after⟩ _ rfl
  cases result with
  | error e => exact .pure rfl
  | ok moved =>
    dsimp only
    split
    · exact .pure rfl
    · exact .bind (.report _ _) fun _ _ _ => .pure rfl

theorem bind_inStep (alike : TellsAlike R) (pool : TransactionPingingPool) (backend : BackendId) :
    (pool.bind backend).InStep R (pool.bind backend) Eq := by
  refine .bind (PingingPool.bindReserving_inStep alike .eq (.refl _) backend _) ?_
  rintro ⟨result, inner⟩ _ both
  obtain rfl := both.eq_of PingingPool.Twin.eq
  cases result with
  | error e => exact .pure rfl
  | ok _ =>
    refine .bind (beginPending_inStep alike _) ?_
    rintro begun _ rfl
    exact .pure rfl

theorem put_inStep (alike : TellsAlike R) (pool : TransactionPingingPool) (session : Session) :
    (pool.put (σ := σ) session).InStep R (pool.put session) Eq := by
  unfold put
  split
  · exact .pure rfl
  split
  · dsimp only
    split
    · exact .pure rfl
    · exact .pure rfl
  · refine .bind (PingingPool.put_inStep alike .eq (.refl _) session) ?_
    rintro done _ both
    obtain rfl := both.eq_of PingingPool.Twin.eq
    exact .pure rfl

theorem get_inStep (alike : TellsAlike R) (pool : TransactionPingingPool)
    (timeout : Option Duration) : (pool.get timeout).InStep R (pool.get timeout) Eq :=
  .within (fun inner => (⟨inner, pool.pending⟩ : TransactionPingingPool))
    (PingingPool.inStep_of_twin (PingingPool.get_inStep alike .eq (.refl pool.inner) timeout))

theorem ping_inStep (alike : TellsAlike R) (pool : TransactionPingingPool) :
    pool.ping.InStep R pool.ping Eq :=
  .within (fun inner => (⟨inner, pool.pending⟩ : TransactionPingingPool))
    (PingingPool.inStep_of_twin (PingingPool.ping_inStep alike .eq (.refl pool.inner)))

theorem pingAllDue_inStep (alike : TellsAlike R) (pool : TransactionPingingPool) :
    pool.pingAllDue.InStep R pool.pingAllDue Eq :=
  .within (fun inner => (⟨inner, pool.pending⟩ : TransactionPingingPool))
    (PingingPool.inStep_of_twin (PingingPool.pingAllDue_inStep alike .eq (.refl pool.inner)))

theorem clear_inStep (alike : TellsAlike R) (pool : TransactionPingingPool) :
    pool.clear.InStep R pool.clear Eq := by
  rw [clear_eq]
  refine .bind (PingingPool.clear_inStep alike (.refl _)) ?_
  rintro ⟨queued, inner⟩ _ both
  obtain rfl := both.eq_of PingingPool.Twin.eq
  refine .bind (Desk.deleteAll_inStep alike _ _ pool.pending) ?_
  rintro waiting _ rfl
  exact .pure rfl

end TransactionPingingPool

namespace Pool

theorem bind_inStep (alike : TellsAlike R) (pool : Pool) (backend : BackendId) :
    (pool.bind backend).InStep R (pool.bind backend) Eq := by
  cases pool with
  | fixed pool => exact .within _ (pool.bind_inStep alike backend)
  | bursty pool => exact .pure rfl
  | pinging pool =>
    have filled := PingingPool.bindReserving_inStep alike .eq (.refl pool) backend 0
    exact .within _ (PingingPool.inStep_of_twin filled)
  | transactionPinging pool => exact .within _ (pool.bind_inStep alike backend)

theorem get_inStep (alike : TellsAlike R) (pool : Pool) (timeout : Option Duration) :
    (pool.get timeout).InStep R (pool.get timeout) Eq := by
  refine .bind (.wait alike _) fun _ _ _ => ?_
  cases pool with
  | fixed pool => exact .within _ (pool.get_inStep alike timeout)
  | bursty pool => exact .within _ (pool.get_inStep alike)
  | pinging pool =>
    have inner := PingingPool.inStep_of_twin (PingingPool.get_inStep alike .eq (.refl pool) timeout)
    exact .within _ inner
  | transactionPinging pool => exact .within _ (pool.get_inStep alike timeout)

theorem put_inStep (alike : TellsAlike R) (pool : Pool) (session : Session) :
    (pool.put session).InStep R (pool.put session) Eq := by
  cases pool with
  | fixed pool => exact .pure rfl
  | bursty pool => exact .within _ (pool.put_inStep alike session)
  | pinging pool =>
    have returned := PingingPool.put_inStep alike .eq (.refl pool) session
    exact .within _ (PingingPool.inStep_of_twin returned)
  | transactionPinging pool => exact .within _ (pool.put_inStep alike session)

theorem clear_inStep (alike : TellsAlike R) (pool : Pool) :
    pool.clear.InStep R pool.clear Eq := by
  cases pool with
  | fixed pool => exact .within _ (pool.clear_inStep alike)
  | bursty pool => exact .within _ (pool.clear_inStep alike)
  | pinging pool =>
    have inner := PingingPool.inStep_of_twin (PingingPool.clear_inStep alike (.refl pool))
    exact .within _ inner
  | transactionPinging pool => exact .within _ (pool.clear_inStep alike)

theorem ping_inStep (alike : TellsAlike R) (pool : Pool) : pool.ping.InStep R pool.ping Eq := by
  cases pool with
  | pinging pool =>
    have inner := PingingPool.inStep_of_twin (PingingPool.ping_inStep alike .eq (.refl pool))
    exact .within _ inner
  | transactionPinging pool => exact .within _ (pool.ping_inStep alike)
  | _ => exact .pure rfl

theorem pingAllDue_inStep (alike : TellsAlike R) (pool : Pool) :
    pool.pingAllDue.InStep R pool.pingAllDue Eq := by
  cases pool with
  | pinging pool =>
    have inner := PingingPool.inStep_of_twin (PingingPool.pingAllDue_inStep alike .eq (.refl pool))
    exact .within _ inner
  | transactionPinging pool => exact .within _ (pool.pingAllDue_inStep alike)
  | _ => exact .pure rfl

theorem beginPending_inStep (alike : TellsAlike R) (pool : Pool) :
    (pool.beginPending (σ := σ)).InStep R pool.beginPending Eq := by
  cases pool with
  | transactionPinging pool => exact .within _ (pool.beginPending_inStep alike)
  | _ => exact .pure rfl

end Pool
end SessionPooling
