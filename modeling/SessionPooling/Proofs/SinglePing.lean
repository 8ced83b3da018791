import SessionPooling.Proofs.FirstComeFirstServed

/-! One ping concerns one session. Only the first entry of a queue is looked at; if it is due and
the service does not fail, the session in it, or a new one in its place, comes back under the next
number, due one interval from now. Nothing else in the pool changes. -/
namespace SessionPooling
variable {σ : Type}

/-- A session was pinged once. It is what is left, used at that time, or else a new session, which
was asked for once because the service no longer had it. -/
inductive Desk.RenewedAt (desk : Desk) (stale : Session) (used : Instant) :
    Session → List Exchange → Prop where
  | kept {creation} (known : stale.creation = some creation) :
      RenewedAt desk stale used { stale with lastUse := used }
        [⟨stale.backend, .ping creation.id, .ok ()⟩]
  | replaced {creation backend} (known : stale.creation = some creation)
      (bound : desk.backend = some backend) (missing : Failure) (notFound : missing.isNotFound)
      (template : Template) (id : SessionId) :
      RenewedAt desk stale used ⟨backend, template, some ⟨id, used⟩, used, false, none⟩
        [⟨stale.backend, .ping creation.id, .error missing⟩, ⟨backend, .create template, .ok id⟩]

theorem Desk.Refreshed.renews {desk : Desk} {stale session : Session} {heard : List Exchange}
    (refreshed : desk.Refreshed stale (.fit session) heard) :
    desk.RenewedAt stale session.lastUse session heard := by
  cases refreshed with
  | pinged pinged =>
    cases pinged with
    | kept known time => exact .kept known
  | @replaced asked more missing session notFound pinged created =>
    cases pinged with
    | unborn => cases notFound
    | failed known =>
      cases created with
      | created bound role id time => exact .replaced known bound missing notFound _ id

namespace PingingPool

/-- The first entry of a queue was due and its session was renewed. The times are those that the
clock showed meanwhile, which are one and the same on a clock that stands still. -/
structure FirstRenewed (pool : PingingPool) (begun ended : Clock) (after : PingingPool)
    (heard : List Exchange) (first : PingEntry) (others : List PingEntry) (session : Session)
    (stored : Instant) : Prop where
  front : pool.queue.entries = first :: others
  due : first.due ≤ begun.now
  renewed : pool.desk.RenewedAt first.session session.lastUse session heard
  used : begun.Spans session.lastUse ended
  shown : begun.Spans stored ended
  entries : after.queue.entries =
    insertPingEntry ⟨stored.after pool.pingInterval, pool.nextSequence, session⟩ others
  /-- The number is above those of all others. -/
  fewer : ∀ other ∈ others, other.sequence < pool.nextSequence
  stats : after.stats = pool.stats
  unchanged : after = { pool with queue := after.queue, nextSequence := pool.nextSequence + 1 }

section
variable {pool after : PingingPool} {begun ended : Clock} {heard : List Exchange}

/-- A ping that refreshed a session has a new entry in the queue, under a number that was not given
before; so the session in it is one that was used meanwhile. -/
theorem PingedFrom.firstRenewed (pinged : pool.PingedFrom begun ended (.ok true) after heard)
    (anew : pool.UsedAnew begun ended after) (numbered : pool.Numbered) :
    ∃ first others session stored,
      pool.FirstRenewed begun ended after heard first others session stored := by
  cases pinged with
  | @stored first queue session time _ popped due refreshed shown =>
    have front := PingQueue.entries_of_pop? popped
    have fewer := numbered.fewer
    let entry : PingEntry := ⟨time.after pool.pingInterval, pool.nextSequence, session⟩
    have came : entry ∈ (({ pool with queue } : PingingPool).shelve time session).queue.entries :=
      mem_insertPingEntry.2 (.inl rfl)
    have notThere : entry ∉ pool.queue.entries := fun there => Nat.lt_irrefl _ (fewer entry there)
    have used : begun.Spans session.lastUse ended := (anew entry came).resolve_left notThere
    have size := size_shelve_of_pop? popped time session
    rw [front] at fewer
    refine ⟨first, queue.entries, session, time, front, due, refreshed.renews, used, shown, rfl,
      (List.forall_mem_cons.1 fewer).2, ?_, rfl⟩
    simp only [stats, size]
    rfl

/-- A ping has nothing to do exactly when nothing is due, and then it does nothing. -/
theorem PingedFrom.idle_iff {result : Except Failure Bool}
    (pinged : pool.PingedFrom begun ended result after heard) (fits : pool.queue.size ≤ pool.size) :
    (result = .ok false ↔
      ∀ first others, pool.queue.entries = first :: others → begun.now < first.due) ∧
      (result = .ok false → heard = [] ∧ after = pool) := by
  have notEarly {entry : PingEntry} {queue : PingQueue}
      (popped : pool.queue.pop? = some (entry, queue)) (due : entry.due ≤ begun.now) :
      ¬ ∀ first others, pool.queue.entries = first :: others → begun.now < first.due := by
    intro early
    exact Int.not_le.2 (early entry queue.entries (PingQueue.entries_of_pop? popped)) due
  cases pinged with
  | idle early =>
    refine ⟨⟨fun _ first others front => ?_, fun _ => rfl⟩, fun _ => ⟨rfl, rfl⟩⟩
    exact early first (front ▸ List.mem_cons_self)
  | stored popped due => exact ⟨⟨nofun, fun early => (notEarly popped due early).elim⟩, nofun⟩
  | lost popped due => exact ⟨⟨nofun, fun early => (notEarly popped due early).elim⟩, nofun⟩
  | putBack popped due => exact ⟨⟨nofun, fun early => (notEarly popped due early).elim⟩, nofun⟩
  | crowdedOut popped overfull => exact (Nat.not_lt_of_le fits overfull).elim

end
end PingingPool

namespace Lending
variable [Service σ]

/-- In every run of a pool around a queue, a ping returns that it did nothing exactly when the queue
is empty or its first entry, the one before all others by due time and number, is due later than
now; it asks for nothing then and leaves the pool as it is. If it returns that it did something, the
first entry was due and its session was pinged once, and a new one was asked for once if the service
no longer had it, and only then; what is left is stored in its place under a number above all
others, one interval from now, and nothing else has changed. -/
theorem play_pings_one (strangers : List Session) (parts : PoolParts) (clock : Clock)
    (services : σ) (ops : List (Op σ)) (pinging : parts.kind = .pinging) :
    let l := (startAmong strangers parts clock services).play ops
    ∃ pool, l.pool = .pinging pool ∧
      (∀ first others, pool.queue.entries = first :: others →
        ∀ other ∈ others, first.Before other) ∧
      let pinged := pool.ping l.env
      ∃ heard, pinged.2.service.heard = l.heard ++ heard ∧
        (pinged.1.1 = .ok false ↔ ∀ first others, pool.queue.entries = first :: others →
          l.env.clock.now < first.due) ∧
        (pinged.1.1 = .ok false → heard = [] ∧ pinged.1.2 = pool) ∧
        (pinged.1.1 = .ok true → ∃ first others session stored,
          pool.FirstRenewed l.env.clock pinged.2.clock pinged.1.2 heard first others session
            stored) := by
  intro l
  obtain ⟨fresh, begun, -⟩ := startAmong_queues strangers clock services pinging
  obtain ⟨pool, queues⟩ := begun.play ops
  have stocked := queues.stocked
  rw [queues.same] at stocked
  refine ⟨pool, queues.same, ?_, ?_⟩
  · intro first others front
    exact (queues.numbered.servesFirst stocked front l.env).least
  intro pinged
  obtain ⟨heard, grown, -, from', anew⟩ := pool.ping_pingedAnew l.env.clock l.env rfl
  obtain ⟨idle, nothing⟩ := from'.idle_iff queues.fits
  refine ⟨heard, grown, idle, nothing, fun ok => ?_⟩
  have went : pool.PingedFrom l.env.clock pinged.2.clock pinged.1.1 pinged.1.2 heard := from'
  rw [ok] at went
  exact went.firstRenewed anew queues.numbered

/-- Of two sessions that fall due just now, the first has expired. -/
theorem play_pings_one_of_expired :
    let parts := PoolParts.ofConfig
      { PoolConfig.standard with kind := .pinging, size := 2, pingIntervalSecs := 100 }
    let clock := Clock.startingAt ⟨0, by decide⟩
    let services := Fleet.ofBackends [.reliable (.fresh none none false) 0]
    let ops : List (Op Fleet) := [.bind 0, .moveClock (·.advance (.ofSeconds 100)),
      .outside (Fleet.onMemory 0 (·.expire ⟨"session-1"⟩))]
    let l := (startAmong [] parts clock services).play ops
    (parts.kind = .pinging ∧ (l.pool.ping l.env).1.1 = .ok true) ∧
      (l.pool.ping l.env).1.2.sessions.map (·.id?) =
        [some ⟨"session-2"⟩, some ⟨"session-3"⟩] ∧
      ∃ pool after heard first others session stored, l.pool = .pinging pool ∧
        (l.pool.ping l.env).1.2 = .pinging after ∧
        pool.FirstRenewed l.env.clock (l.pool.ping l.env).2.clock after heard first others session
          stored := by
  intro parts clock services ops l
  have ok : (l.pool.ping l.env).1.1 = .ok true := by decide +kernel
  have sessions : (l.pool.ping l.env).1.2.sessions.map (·.id?) =
      [some ⟨"session-2"⟩, some ⟨"session-3"⟩] := by decide +kernel
  obtain ⟨pool, same, -, heard, -, -, -, renews⟩ :=
    play_pings_one [] parts clock services ops rfl
  have here : l.pool = .pinging pool := same
  refine ⟨⟨rfl, ok⟩, sessions, pool, ?_⟩
  rw [here] at ok ⊢
  obtain ⟨first, others, session, stored, renewed⟩ := renews ok
  exact ⟨_, heard, first, others, session, stored, rfl, rfl, renewed⟩

end Lending
end SessionPooling
