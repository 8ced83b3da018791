import SessionPooling.Proofs.PoolStore

/-! Taking a session from a pool: every way in which it can go, what is asked meanwhile, and
what becomes of the sessions. -/
namespace SessionPooling
variable {σ : Type} [Service σ]

/-- How taking a session goes. -/
inductive Pool.Took (pool : Pool) : Except Failure Session → Pool → List Exchange → Prop where
  | exhausted (isBounded : pool.bounded) (empty : pool.pop? = none) (limit : Duration) :
      Took pool (.error (.poolExhausted limit)) pool []
  | created {session heard} (isBursty : pool.bounded = false) (empty : pool.pop? = none)
      (created : pool.desk.Created (.ok session) heard) :
      Took pool (.ok (session.setInUse true)) (pool.mapDesk .countOut) heard
  | notCreated {e heard} (isBursty : pool.bounded = false) (empty : pool.pop? = none)
      (created : pool.desk.Created (.error e) heard) : Took pool (.error e) pool heard
  | handedOut {popped rest session heard} (taken : pool.pop? = some (popped, rest))
      (vetted : pool.desk.Vetted popped (.fit session) heard) :
      Took pool (.ok (session.setInUse true)) (rest.mapDesk .countOut) heard
  | lost {popped rest e heard} (taken : pool.pop? = some (popped, rest))
      (vetted : pool.desk.Vetted popped (.lost e) heard) : Took pool (.error e) rest heard
  | putBack {popped rest e heard} (taken : pool.pop? = some (popped, rest))
      (vetted : pool.desk.Vetted popped (.unclear e) heard) : Took pool (.error e) pool heard
  /-- A pool that held more than it has room for does not take back the session. -/
  | crowdedOut {popped rest e heard} (taken : pool.pop? = some (popped, rest))
      (overfull : ¬ pool.Stocked)
      (vetted : pool.desk.Vetted popped (.unclear e) heard) : Took pool (.error e) rest heard

namespace FixedPool

inductive Revalidated (pool : FixedPool) (session : Session) :
    Except Failure Session → FixedPool → List Exchange → Prop where
  | fit {usable heard} (vetted : pool.desk.Vetted session (.fit usable) heard) :
      Revalidated pool session (.ok usable) pool heard
  | lost {e heard} (vetted : pool.desk.Vetted session (.lost e) heard) :
      Revalidated pool session (.error e) pool heard
  | putBack {e heard} (vetted : pool.desk.Vetted session (.unclear e) heard) :
      Revalidated pool session (.error e) { pool with stored := session :: pool.stored } heard
  | crowdedOut {e heard} (full : pool.size ≤ pool.stored.length)
      (vetted : pool.desk.Vetted session (.unclear e) heard) :
      Revalidated pool session (.error e) pool heard

omit [Service σ] in
theorem restore_hears (pool : FixedPool) (session : Session) :
    (pool.restore (σ := Recorder σ) session).Hears fun next heard =>
      heard = [] ∧ (next = { pool with stored := session :: pool.stored } ∨
        pool.size ≤ pool.stored.length ∧ next = pool) := by
  unfold restore push
  split
  next next pushed =>
    split at pushed
    · cases pushed
    · cases pushed
      exact .pure ⟨rfl, .inl rfl⟩
  next e refused =>
    split at refused
    next full => exact .silently (fun _ => rfl) fun _ => .pure ⟨rfl, .inr ⟨full, rfl⟩⟩
    · cases refused

theorem revalidate_revalidated (pool : FixedPool) (session : Session) :
    (pool.revalidate (σ := Recorder σ) session).Hears fun r heard =>
      pool.Revalidated session r.1 r.2 heard := by
  have replacing {asked : List Exchange} (gone : session.Gone asked) :
      (do
        let replacement ← pool.desk.replace (σ := Recorder σ) session
        pure (replacement, pool)).HearsAfter asked fun r heard =>
          pool.Revalidated session r.1 r.2 heard := by
    refine .bind (pool.desk.replace_created session) fun replacement more created => .pure ?_
    cases replacement with
    | error e => exact .lost (.lost gone created)
    | ok usable => exact .fit (.replaced gone created)
  unfold revalidate
  refine .silently (fun _ => rfl) fun now => ?_
  split
  · exact .pure (.fit .trusted)
  · refine .bind session.exists?_probed fun reply heard probed => ?_
    match reply with
    | .ok true => exact .pure (.fit (.alive probed))
    | .ok false => exact replacing (.absent probed)
    | .error e =>
      dsimp only
      split
      next missing => exact replacing (.notFound missing probed)
      next present =>
        have unclear : pool.desk.Vetted session (.unclear e) heard :=
          .unclear (eq_false_of_ne_true present) probed
        refine .bind (restore_hears pool session) ?_
        rintro next _ ⟨rfl, rfl | ⟨full, rfl⟩⟩
        · rw [List.append_nil]
          exact .pure (.putBack unclear)
        · rw [List.append_nil]
          exact .pure (.crowdedOut full unclear)

theorem get_took (pool : FixedPool) (timeout : Option Duration) :
    (pool.get (σ := Recorder σ) timeout).Hears fun r heard =>
      (Pool.fixed pool).Took r.1 (.fixed r.2) heard := by
  obtain ⟨desk, size, defaultTimeout, maxAge, stored⟩ := pool
  cases stored with
  | nil => exact .pure (.exhausted rfl rfl _)
  | cons popped rest =>
    refine .bind (revalidate_revalidated _ popped) ?_
    rintro ⟨result, next⟩ heard revalidated
    cases revalidated with
    | fit vetted =>
      refine .silently (fun _ => rfl) fun _ => .pure ?_
      exact @Pool.Took.handedOut _ _ (.fixed ⟨desk, size, defaultTimeout, maxAge, rest⟩) _ _ rfl
        vetted
    | lost vetted => exact .pure (.lost rfl vetted)
    | putBack vetted => exact .pure (.putBack rfl vetted)
    | crowdedOut full vetted =>
      exact .pure (.crowdedOut rfl (fun stocked => Nat.not_le_of_lt (stocked rfl) full) vetted)

end FixedPool

namespace BurstyPool

theorem get_took (pool : BurstyPool) :
    (pool.get (σ := Recorder σ)).Hears fun r heard =>
      (Pool.bursty pool).Took r.1 (.bursty r.2) heard := by
  obtain ⟨desk, targetSize, stored⟩ := pool
  cases stored with
  | nil =>
    refine .bind desk.create_created fun result heard created => ?_
    cases result with
    | error e => exact .pure (.notCreated rfl rfl created)
    | ok session => exact .silently (fun _ => rfl) fun _ => .pure (.created rfl rfl created)
  | cons popped rest =>
    have replacing {asked : List Exchange} (gone : popped.Gone asked) :
        (do
          let created ← desk.replace (σ := Recorder σ) popped
          (⟨desk, targetSize, rest⟩ : BurstyPool).handOutNew created).HearsAfter asked
            fun r heard =>
              (Pool.bursty ⟨desk, targetSize, popped :: rest⟩).Took r.1 (.bursty r.2) heard := by
      refine .bind (desk.replace_created popped) fun replacement more created => ?_
      cases replacement with
      | error e => exact .pure (.lost rfl (.lost gone created))
      | ok session =>
        refine .silently (fun _ => rfl) fun _ => .pure ?_
        exact @Pool.Took.handedOut _ _ (.bursty ⟨desk, targetSize, rest⟩) _ _ rfl
          (.replaced gone created)
    refine .bind popped.exists?_probed fun reply heard probed => ?_
    match reply with
    | .ok true =>
      refine .silently (fun _ => rfl) fun _ => .pure ?_
      exact @Pool.Took.handedOut _ _ (.bursty ⟨desk, targetSize, rest⟩) _ _ rfl (.alive probed)
    | .ok false => exact replacing (.absent probed)
    | .error e =>
      dsimp only
      split
      next missing => exact replacing (.notFound missing probed)
      next present =>
        have restored : (⟨desk, targetSize, rest⟩ : BurstyPool).push popped =
            ⟨desk, targetSize, popped :: rest⟩ := push_of_pop? rfl
        rw [restored]
        exact .pure (.putBack rfl (.unclear (eq_false_of_ne_true present) probed))

end BurstyPool

namespace PingingPool
variable {wrap : PingingPool → Pool}

theorem get_took (around : Pool.Around wrap) (pool : PingingPool) (timeout : Option Duration) :
    (pool.get (σ := Recorder σ) timeout).Hears fun r heard =>
      (wrap pool).Took r.1 (wrap r.2) heard := by
  have desk := around.desk pool
  unfold get
  split
  next empty =>
    refine .pure (.exhausted (around.bounded pool) ?_ _)
    rw [around.pop?, empty]
    rfl
  next entry queue popped =>
    have taken := around.pop?_of_popped popped
    have handing {session : Session} {asked : List Exchange}
        (vetted : (wrap pool).desk.Vetted entry.session (.fit session) asked) :
        (({ pool with queue } : PingingPool).handOut (σ := Recorder σ) session).HearsAfter asked
          fun r heard => (wrap pool).Took r.1 (wrap r.2) heard := by
      refine .silently (fun _ => rfl) fun _ => .pure ?_
      have handedOut := Pool.Took.handedOut taken vetted
      rw [around.mapDesk] at handedOut
      exact handedOut
    have replacing {asked : List Exchange} (gone : entry.session.Gone asked) :
        (({ pool with queue } : PingingPool).handOutReplacement (σ := Recorder σ)
          entry.session).HearsAfter asked fun r heard => (wrap pool).Took r.1 (wrap r.2) heard := by
      refine .bind (Desk.replace_created _ entry.session) fun replacement more created => ?_
      rw [← desk] at created
      cases replacement with
      | error e => exact .pure (.lost taken (.lost gone created))
      | ok session => exact handing (.replaced gone created)
    refine .silently (fun _ => rfl) fun now => ?_
    split
    · refine .bind entry.session.exists?_probed fun reply heard probed => ?_
      match reply with
      | .ok true => exact handing (.alive probed)
      | .ok false => exact replacing (.absent probed)
      | .error e =>
        dsimp only
        split
        next missing => exact replacing (.notFound missing probed)
        next present =>
          have requeued : ({ pool with queue } : PingingPool).requeue entry = pool := by
            simp only [requeue, PingQueue.insert_of_pop? popped]
          rw [requeued]
          exact .pure (.putBack taken (.unclear (eq_false_of_ne_true present) probed))
    · exact handing .trusted

end PingingPool

namespace Pool

theorem get_took (pool : Pool) (timeout : Option Duration) :
    (pool.get (σ := Recorder σ) timeout).Hears fun r heard => pool.Took r.1 r.2 heard := by
  refine .silently (fun _ => rfl) fun _ => ?_
  cases pool with
  | fixed pool => exact .map (pool.get_took timeout)
  | bursty pool => exact .map pool.get_took
  | pinging pool => exact .map (pool.get_took .alone timeout)
  | transactionPinging pool =>
    obtain ⟨inner, pending⟩ := pool
    exact .map (.map (inner.get_took (.waiting pending) timeout))

/-- The session that leaves the pool, if one does. -/
def leaving : Except Failure Session → List Session
  | .ok session => [session]
  | .error _ => []

namespace Took
variable {pool after : Pool} {result : Except Failure Session} {heard : List Exchange}

theorem desk (took : pool.Took result after heard) :
    after.desk = if (leaving result).isEmpty then pool.desk else pool.desk.countOut := by
  cases took with
  | exhausted => rfl
  | created isBursty empty created => exact desk_mapDesk _ _
  | notCreated => rfl
  | handedOut taken vetted =>
    exact (desk_mapDesk _ _).trans (congrArg _ (popped_of_pop? taken).desk)
  | lost taken vetted => exact (popped_of_pop? taken).desk
  | putBack => rfl
  | crowdedOut taken overfull vetted => exact (popped_of_pop? taken).desk

theorem kin (took : pool.Took result after heard) : pool.Kin after := by
  cases took with
  | exhausted => exact .refl _
  | created => exact kin_mapDesk _ _
  | notCreated => exact .refl _
  | handedOut taken vetted => exact (popped_of_pop? taken).kin.trans (kin_mapDesk _ _)
  | lost taken vetted => exact (popped_of_pop? taken).kin
  | putBack => exact .refl _
  | crowdedOut taken overfull vetted => exact (popped_of_pop? taken).kin

/-- Taking a session moves one out of the store, or a new one in its place; one that is gone
is lost only when none could be created in its place. -/
theorem turnover (took : pool.Took result after heard) :
    Turnover pool.bounded pool.Ready pool.sessions (leaving result ++ after.sessions) heard := by
  have isBound : pool.Ready → pool.desk.backend ≠ none := Ready.bound
  cases took with
  | exhausted => exact .refl _
  | created isBursty empty created =>
    obtain ⟨-, id, name, fresh⟩ := created.exists_name
    have notBounded : ¬ pool.bounded = true := ne_true_of_eq_false isBursty
    rw [sessions_mapDesk]
    exact (Turnover.joined name fresh notBounded pool.sessions).congr (.refl _) (.refl _)
  | notCreated isBursty empty created => exact .elastic (.refl _) (ne_true_of_eq_false isBursty)
  | @handedOut popped rest session _ taken vetted =>
    have moved : Turnover pool.bounded pool.Ready (popped :: rest.sessions)
        (session :: rest.sessions) heard := (vetted.turnover isBound).append_right rest.sessions
    rw [(popped_of_pop? taken).sessions, sessions_mapDesk]
    exact moved.congr (.refl _) (.refl _)
  | @lost popped _ _ _ taken vetted =>
    rw [(popped_of_pop? taken).sessions]
    exact (vetted.turnover isBound).append_right after.sessions
  | @putBack popped rest _ _ taken vetted =>
    rw [(popped_of_pop? taken).sessions]
    exact (vetted.turnover isBound).append_right rest.sessions
  | @crowdedOut popped _ _ _ taken overfull vetted =>
    rw [(popped_of_pop? taken).sessions]
    refine .dropped (List.sublist_cons_self popped after.sessions) vetted.quiet_of_unclear ?_
    exact fun _ ready => overfull ready.stocked

end Took
end Pool
end SessionPooling
