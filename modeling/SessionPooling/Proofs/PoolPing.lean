import SessionPooling.Proofs.Tending

/-! Keeping the sessions of a pool alive: every way in which a ping can go, and what becomes of
the sessions when as many as are due are pinged. -/
namespace SessionPooling
variable {σ : Type} [Service σ]

inductive Pool.Pinged (pool : Pool) : Except Failure Bool → Pool → List Exchange → Prop where
  | idle : Pinged pool (.ok false) pool []
  | stored {popped rest session heard} (now : Instant) (taken : pool.pop? = some (popped, rest))
      (refreshed : pool.desk.Refreshed popped (.fit session) heard) :
      Pinged pool (.ok true) (rest.shelve now session) heard
  | lost {popped rest e heard} (taken : pool.pop? = some (popped, rest))
      (refreshed : pool.desk.Refreshed popped (.lost e) heard) : Pinged pool (.error e) rest heard
  | putBack {popped rest e heard} (taken : pool.pop? = some (popped, rest))
      (refreshed : pool.desk.Refreshed popped (.unclear e) heard) :
      Pinged pool (.error e) pool heard
  /-- A pool that held more than it has room for does not take back the session. -/
  | crowdedOut {popped rest session e heard} (taken : pool.pop? = some (popped, rest))
      (overfull : ¬ pool.Stocked)
      (refreshed : pool.desk.Refreshed popped (.fit session) heard) :
      Pinged pool (.error e) rest heard

namespace PingingPool
variable {wrap : PingingPool → Pool} {pool after : PingingPool} {begun ended : Clock}
  {heard : List Exchange}

/-- A queue is pinged the same way whether sessions wait beside it or not. -/
theorem PingedFrom.around (around : Pool.Around wrap) {result : Except Failure Bool}
    (pinged : pool.PingedFrom begun ended result after heard) :
    (wrap pool).Pinged result (wrap after) heard := by
  have desk := around.desk pool
  cases pinged with
  | idle => exact .idle
  | @stored entry queue session time _ popped due refreshed shown =>
    rw [← desk] at refreshed
    have stored := Pool.Pinged.stored time (around.pop?_of_popped popped) refreshed
    rw [around.shelve] at stored
    exact stored
  | lost popped due refreshed =>
    rw [← desk] at refreshed
    exact .lost (around.pop?_of_popped popped) refreshed
  | putBack popped due refreshed =>
    rw [← desk] at refreshed
    exact .putBack (around.pop?_of_popped popped) refreshed
  | crowdedOut popped overfull refreshed =>
    rw [← desk] at refreshed
    refine .crowdedOut (around.pop?_of_popped popped) (fun stocked => ?_) refreshed
    have fit := stocked (around.bounded pool)
    rw [around.available, around.capacity] at fit
    exact Nat.not_lt_of_le fit overfull

theorem ping_pinged (around : Pool.Around wrap) (pool : PingingPool) :
    (pool.ping (σ := Recorder σ)).Hears fun r heard => (wrap pool).Pinged r.1 (wrap r.2) heard :=
  .anytime fun clock => (pool.ping_pingedFrom clock).mono fun _ _ _ pinged =>
    pinged.around around

end PingingPool

namespace Pool.Pinged
variable {pool after : Pool} {result : Except Failure Bool} {heard : List Exchange}

theorem desk (pinged : pool.Pinged result after heard) : after.desk = pool.desk := by
  cases pinged with
  | idle => rfl
  | stored now taken => exact (desk_shelve _ _ _).trans (popped_of_pop? taken).desk
  | lost taken => exact (popped_of_pop? taken).desk
  | putBack => rfl
  | crowdedOut taken => exact (popped_of_pop? taken).desk

theorem kin (pinged : pool.Pinged result after heard) : pool.Kin after := by
  cases pinged with
  | idle => exact .refl _
  | stored now taken => exact (popped_of_pop? taken).kin.trans (kin_shelve _ _ _)
  | lost taken => exact (popped_of_pop? taken).kin
  | putBack => exact .refl _
  | crowdedOut taken => exact (popped_of_pop? taken).kin

/-- A ping keeps every session, or puts a new one in its place; one that is gone is lost only
when none could be created in its place. -/
theorem turnover (pinged : pool.Pinged result after heard) :
    Turnover pool.bounded pool.Ready pool.sessions after.sessions heard := by
  have isBound : pool.Ready → pool.desk.backend ≠ none := Ready.bound
  cases pinged with
  | idle => exact .refl _
  | @stored popped rest session _ now taken refreshed =>
    have moved : Turnover pool.bounded pool.Ready (popped :: rest.sessions)
        (session :: rest.sessions) heard := (refreshed.turnover isBound).append_right rest.sessions
    rw [(popped_of_pop? taken).sessions]
    exact moved.congr (.refl _) ((rest.sessions_shelve now session).symm.map _)
  | lost taken refreshed =>
    rw [(popped_of_pop? taken).sessions]
    exact (refreshed.turnover isBound).append_right after.sessions
  | @putBack popped rest _ _ taken refreshed =>
    rw [(popped_of_pop? taken).sessions]
    exact (refreshed.turnover isBound).append_right rest.sessions
  | @crowdedOut popped _ session _ _ taken overfull refreshed =>
    have moved : Turnover pool.bounded pool.Ready (popped :: after.sessions)
        (session :: after.sessions) heard :=
      (refreshed.turnover isBound).append_right after.sessions
    have notReady : pool.bounded → ¬ pool.Ready := fun _ ready => overfull ready.stocked
    rw [(popped_of_pop? taken).sessions, ← List.append_nil heard]
    exact moved.trans (.dropped (List.sublist_cons_self session after.sessions) rfl notReady)

end Pool.Pinged

namespace Pool

theorem ping_pinged (pool : Pool) :
    (pool.ping (σ := Recorder σ)).Hears fun r heard => pool.Pinged r.1 r.2 heard := by
  cases pool with
  | fixed pool => exact .pure .idle
  | bursty pool => exact .pure .idle
  | pinging pool => exact .map (pool.ping_pinged .alone)
  | transactionPinging pool =>
    obtain ⟨inner, pending⟩ := pool
    exact .map (.map (inner.ping_pinged (.waiting pending)))

inductive PingedOn : Pool → Pool → List Exchange → Prop where
  | done {pool} : PingedOn pool pool []
  | next {pool mid after result heard more} (pinged : pool.Pinged result mid heard)
      (rest : PingedOn mid after more) : PingedOn pool after (heard ++ more)

theorem PingedOn.single {pool after : Pool} {result : Except Failure Bool} {heard : List Exchange}
    (pinged : pool.Pinged result after heard) : pool.PingedOn after heard :=
  List.append_nil heard ▸ .next pinged .done

end Pool

namespace PingingPool
variable {wrap : PingingPool → Pool}

theorem PingedThrough.around (around : Pool.Around wrap) {rounds refreshed : Nat}
    {pool after : PingingPool} {begun ended : Clock} {result : Except Failure Nat}
    {heard : List Exchange}
    (went : PingedThrough rounds refreshed pool begun result after heard ended) :
    (wrap pool).PingedOn (wrap after) heard := by
  induction went with
  | finished => exact .done
  | idle pinged passes => exact .single (pinged.around around)
  | failed pinged passes => exact .single (pinged.around around)
  | next pinged passes others ih => exact .next (pinged.around around) ih

theorem pingRounds_pingedOn (around : Pool.Around wrap) (rounds refreshed : Nat)
    (pool : PingingPool) :
    (pingRounds (σ := Recorder σ) rounds refreshed pool).Hears fun r heard =>
      (wrap pool).PingedOn (wrap r.2) heard :=
  .anytime fun clock => (pingRounds_pingedThrough rounds refreshed pool clock).mono
    fun _ _ _ went => went.around around

end PingingPool

namespace Pool

/-- Pinging all that is due is one ping after another. -/
theorem pingAllDue_pingedOn (pool : Pool) :
    (pool.pingAllDue (σ := Recorder σ)).Hears fun r heard => pool.PingedOn r.2 heard := by
  cases pool with
  | fixed pool => exact .pure .done
  | bursty pool => exact .pure .done
  | pinging pool => exact .map (pool.pingRounds_pingedOn .alone pool.size 0)
  | transactionPinging pool =>
    obtain ⟨inner, pending⟩ := pool
    exact .map (.map (inner.pingRounds_pingedOn (.waiting pending) inner.size 0))

namespace PingedOn
variable {pool after : Pool} {heard : List Exchange}

theorem desk (went : pool.PingedOn after heard) : after.desk = pool.desk := by
  induction went with
  | done => rfl
  | next pinged rest ih => exact ih.trans pinged.desk

theorem kin (went : pool.PingedOn after heard) : pool.Kin after := by
  induction went with
  | done => exact .refl _
  | next pinged rest ih => exact pinged.kin.trans ih

/-- A pool that is ready stays ready from ping to ping, so none of them loses more than what
could not be replaced. -/
theorem turnover (went : pool.PingedOn after heard) :
    Turnover pool.bounded pool.Ready pool.sessions after.sessions heard := by
  induction went with
  | done => exact .refl _
  | @next pool mid after result heard more pinged rest ih =>
    -- The next ping needs a pool that is ready: nothing came that was not there before.
    refine pinged.turnover.trans (ih.mono ?_ ?_)
    · rw [pinged.kin.bounded]
      exact id
    · intro isBounded ready
      refine ⟨?_, pinged.desk ▸ ready.bound⟩
      have := pinged.turnover.atMost isBounded
      have := ready.fits
      rw [pinged.kin.capacity]
      omega

end PingedOn
end Pool
end SessionPooling
