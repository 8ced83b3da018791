import SessionPooling.Proofs.PoolStore
import SessionPooling.Proofs.Timing

/-! What a pool may hand out: a session that it had no reason to doubt yet, one that the service
just confirmed, or one that was created just now. -/
namespace SessionPooling
variable {σ : Type} [Service σ]

/-- The service was asked once whether the session exists, and said one way or the other that it
does not. -/
def Session.FoundGone (session : Session) (asked : List Exchange) : Prop :=
  ∃ creation reply, session.creation = some creation ∧
    asked = [⟨session.backend, .probe creation.id, reply⟩] ∧
    (reply = .ok false ∨ ∃ e, reply = .error e ∧ e.isNotFound)

/-- Looking at a session that was created, and what is done then. -/
theorem Session.vetting {β : Type} {session : Session} {creation : Creation}
    (known : session.creation = some creation) {keep renew : Act (Recorder σ) β}
    {giveUp : Failure → Act (Recorder σ) β} {clock : Clock}
    {Q : β → List Exchange → Clock → Prop}
    (keeping : keep.HearsFrom clock [⟨session.backend, .probe creation.id, .ok true⟩] Q)
    (renewing : ∀ asked, session.FoundGone asked → renew.HearsFrom clock asked Q)
    (givingUp : ∀ e asked, (giveUp e).HearsFrom clock asked Q) :
    (session.exists? >>= fun told =>
      match told with
      | .ok true => keep
      | .ok false => renew
      | .error e => if e.isNotFound then renew else giveUp e).HearsFrom clock [] Q := by
  unfold exists?
  rw [known]
  refine .asking fun reply => ?_
  match reply with
  | .ok true => exact keeping
  | .ok false => exact renewing _ ⟨creation, .ok false, known, rfl, .inl rfl⟩
  | .error e =>
    dsimp only
    split
    next missing => exact renewing _ ⟨creation, .error e, known, rfl, .inr ⟨e, rfl, missing⟩⟩
    next present => exact givingUp e _

/-- On what ground a session is handed out. -/
inductive Ground where
  | trusted
  | confirmed
  | created
deriving DecidableEq

/-- The ground on which a session was handed out, going by what was asked last. -/
def Ground.ofHeard (heard : List Exchange) : Ground :=
  match heard.getLast? with
  | none => .trusted
  | some exchange => if exchange.request.kind = .create then .created else .confirmed

/-- Whether the session that falls due first is not overdue. -/
def PingingPool.Trusts (pool : PingingPool) (now : Instant) : Prop :=
  ∃ due, pool.queue.nextDue? = some due ∧ now ≤ due

namespace Pool

/-- Whether the session that would be taken first is handed out at a time without asking for it. -/
def Trusts (pool : Pool) (now : Instant) : Prop :=
  match pool with
  | fixed pool =>
    ∃ session rest, pool.stored = session :: rest ∧ session.lastUse.elapsed now < pool.maxAge
  | bursty _ => False
  | pinging pool => pool.Trusts now
  | transactionPinging pool => pool.inner.Trusts now

omit [Service σ] in
theorem Around.trusts {wrap : PingingPool → Pool} (around : Around wrap) (inner : PingingPool)
    (now : Instant) : (wrap inner).Trusts now ↔ inner.Trusts now := by
  cases around <;> exact Iff.rfl

/-- Why a session has to be created, after the services were asked something: one that is not
bounded is empty, or the session to be taken was found gone. -/
def NeedsNew (pool : Pool) (asked : List Exchange) : Prop :=
  pool.bounded = false ∧ pool.pop? = none ∧ asked = [] ∨
    ∃ popped rest, pool.pop? = some (popped, rest) ∧ popped.FoundGone asked

/-- What has to be so when a session is handed out on some ground. -/
def HandsOut (pool : Pool) (begun ended : Clock) (session : Session) (heard : List Exchange) :
    Ground → Prop
  | .trusted => heard = [] ∧ (∃ rest, pool.pop? = some (session, rest)) ∧
      ∃ time, begun.Spans time ended ∧ pool.Trusts time
  | .confirmed => ∃ rest creation, pool.pop? = some (session, rest) ∧
      session.creation = some creation ∧
      heard = [⟨session.backend, .probe creation.id, .ok true⟩]
  | .created => ∃ asked made, heard = asked ++ made ∧ pool.NeedsNew asked ∧
      pool.desk.Made begun ended session made

/-- What is handed out, is handed out on some ground, and marked as being in use. -/
def HandsOutDuly (pool : Pool) (begun ended : Clock) (got : Except Failure Session)
    (heard : List Exchange) : Prop :=
  ∀ session, got = .ok session → ∃ usable ground, session = usable.setInUse true ∧
    pool.HandsOut begun ended usable heard ground

section
omit [Service σ]
variable {pool : Pool} {begun mid ended : Clock} {session : Session} {heard : List Exchange}
  {ground other : Ground}

theorem HandsOut.earlier (handsOut : pool.HandsOut mid ended session heard ground)
    (first : begun.Passes mid) : pool.HandsOut begun ended session heard ground := by
  cases ground with
  | trusted =>
    obtain ⟨silent, taken, time, spans, trusts⟩ := handsOut
    exact ⟨silent, taken, time, spans.earlier first, trusts⟩
  | confirmed => exact handsOut
  | created =>
    obtain ⟨asked, made, split, reason, created⟩ := handsOut
    exact ⟨asked, made, split, reason, created.earlier first⟩

theorem handsOutDuly_error {e : Failure} : pool.HandsOutDuly begun ended (.error e) heard := by
  intro session got
  cases got

theorem HandsOut.ground_eq (handsOut : pool.HandsOut begun ended session heard ground) :
    ground = Ground.ofHeard heard := by
  cases ground with
  | trusted =>
    obtain ⟨rfl, -⟩ := handsOut
    rfl
  | confirmed =>
    obtain ⟨rest, creation, -, -, rfl⟩ := handsOut
    rfl
  | created =>
    obtain ⟨asked, _, rfl, -, ⟨bound, shown, template, id⟩⟩ := handsOut
    simp [Ground.ofHeard, Request.kind]

theorem HandsOut.trusted_of_pop? {rest : Pool} {time : Instant}
    (taken : pool.pop? = some (session, rest)) (shown : begun.Spans time ended)
    (trusts : pool.Trusts time) : pool.HandsOut begun ended session [] .trusted :=
  ⟨rfl, ⟨rest, taken⟩, time, shown, trusts⟩

theorem NeedsNew.replacing {popped : Session} {rest : Pool} {asked : List Exchange}
    (taken : pool.pop? = some (popped, rest)) (gone : popped.FoundGone asked) :
    pool.NeedsNew asked := .inr ⟨popped, rest, taken, gone⟩

/-- Marking a session as being in use is all that is left to do. -/
theorem handOut_duly {ρ : Type} {desk : Desk} {left : ρ} (ground : Ground)
    (handsOut : pool.HandsOut begun ended session heard ground) :
    (do
      desk.reportAcquired session
      pure (Except.ok (session.setInUse true), left) :
        Act (Recorder σ) (Except Failure Session × ρ)).HearsFrom ended heard
      fun r heard ended => pool.HandsOutDuly begun ended r.1 heard := by
  refine .silently (fun _ => rfl) (fun _ => rfl) fun _ => .pure ?_
  rintro _ ⟨⟩
  exact ⟨session, ground, rfl, handsOut⟩

/-- A session that has to be created is handed out at once. -/
theorem handNew_duly {ρ : Type} {desk : Desk} {make : Act (Recorder σ) (Except Failure Session)}
    {left failing : ρ} {asked : List Exchange} (own : pool.desk = desk)
    (reason : pool.NeedsNew asked) (first : begun.Passes mid)
    (makes : make.HearsFrom mid [] fun made heard ended => ∀ session, made = .ok session →
      desk.Made mid ended session heard) :
    (make >>= fun made =>
      match made with
      | .error e => pure (Except.error e, failing)
      | .ok session => do
        desk.reportAcquired session
        pure (Except.ok (session.setInUse true), left)).HearsFrom mid asked
      fun r heard ended => pool.HandsOutDuly begun ended r.1 heard := by
  refine .bind makes ?_
  intro result made ended passes created
  cases result with
  | error e => exact .pure handsOutDuly_error
  | ok session =>
    have fresh := (created session rfl).earlier first
    rw [← own] at fresh
    exact handOut_duly .created ⟨asked, made, rfl, reason, fresh⟩

end
end Pool

namespace FixedPool

omit [Service σ] in
theorem restore_lasts (pool : FixedPool) (session : Session) (clock : Clock) :
    (pool.restore (σ := Recorder σ) session).HearsFrom clock [] fun _ _ _ => True := by
  unfold restore
  split
  · exact .pure trivial
  · exact .silently (fun _ => rfl) (fun _ => rfl) fun _ => .pure trivial

/-- What revalidation lets pass, the pool may hand out. -/
theorem revalidate_handsOut (pool : FixedPool) {popped : Session} {rest : List Session}
    (stored : pool.stored = popped :: rest) (born : popped.creation ≠ none) (clock : Clock) :
    (({ pool with stored := rest } : FixedPool).revalidate (σ := Recorder σ) popped).HearsFrom
      clock [] fun r heard ended => ∀ usable, r.1 = .ok usable →
        ∃ ground, (Pool.fixed pool).HandsOut clock ended usable heard ground := by
  have taken : (Pool.fixed pool).pop? = some (popped, .fixed { pool with stored := rest }) := by
    simp only [Pool.pop?, stored]
  obtain ⟨creation, known⟩ := Option.ne_none_iff_exists'.1 born
  unfold revalidate
  refine .looking ?_
  split
  next young =>
    refine .pure ?_
    rintro usable ⟨⟩
    have shown := (Clock.Passes.refl clock).spans (clock.passes_wait Clock.glance)
    exact ⟨.trusted, .trusted_of_pop? taken shown ⟨popped, rest, stored, young⟩⟩
  next old =>
    refine Session.vetting known ?_ ?_ ?_
    · refine .pure ?_
      rintro usable ⟨⟩
      exact ⟨.confirmed, _, creation, taken, known, rfl⟩
    · intro asked gone
      refine .bind (Desk.replace_made _ popped _) ?_
      intro replacement made ended passes created
      refine .pure fun usable replaced => ?_
      have fresh := (created usable replaced).earlier (clock.passes_wait _)
      exact ⟨.created, asked, made, rfl, .replacing taken gone, fresh⟩
    · intro e asked
      refine .bind (restore_lasts _ popped _) ?_
      intro next heard ended passes _
      exact .pure fun _ => nofun

theorem get_handsOut (pool : FixedPool) (timeout : Option Duration)
    (born : ∀ session ∈ pool.stored, session.creation ≠ none) (clock : Clock) :
    (pool.get (σ := Recorder σ) timeout).HearsFrom clock [] fun r heard ended =>
      (Pool.fixed pool).HandsOutDuly clock ended r.1 heard := by
  unfold get
  split
  · exact .pure Pool.handsOutDuly_error
  next popped taken popping =>
    obtain ⟨rest, stored, rfl⟩ := pop?_eq_some_iff.1 popping
    have known : popped.creation ≠ none := born popped (stored ▸ List.mem_cons_self)
    refine .bind (pool.revalidate_handsOut stored known clock) ?_
    rintro ⟨result, next⟩ heard mid passes handsOut
    cases result with
    | error e => exact .pure Pool.handsOutDuly_error
    | ok usable =>
      obtain ⟨ground, reason⟩ := handsOut usable rfl
      exact Pool.handOut_duly ground reason

end FixedPool

namespace BurstyPool

theorem get_handsOut (pool : BurstyPool)
    (born : ∀ session ∈ pool.stored, session.creation ≠ none) (clock : Clock) :
    (pool.get (σ := Recorder σ)).HearsFrom clock [] fun r heard ended =>
      (Pool.bursty pool).HandsOutDuly clock ended r.1 heard := by
  unfold get
  split
  next nothing =>
    have empty : (Pool.bursty pool).pop? = none := by
      simp only [Pool.pop?, pop?_eq_none_iff.1 nothing]
    have reason : (Pool.bursty pool).NeedsNew [] := .inl ⟨rfl, empty, rfl⟩
    exact Pool.handNew_duly rfl reason (.refl clock) (pool.desk.create_made clock)
  next popped _ popping =>
    obtain ⟨rest, stored, rfl⟩ := pop?_eq_some_iff.1 popping
    have taken : (Pool.bursty pool).pop? = some (popped, .bursty { pool with stored := rest }) := by
      simp only [Pool.pop?, stored]
    have popping : popped.creation ≠ none := born popped (stored ▸ List.mem_cons_self)
    obtain ⟨creation, known⟩ := Option.ne_none_iff_exists'.1 popping
    refine Session.vetting known ?_ ?_ ?_
    · exact Pool.handOut_duly .confirmed ⟨_, creation, taken, known, rfl⟩
    · intro asked gone
      have made := pool.desk.replace_made (σ := σ) popped clock
      exact Pool.handNew_duly rfl (.replacing taken gone) (.refl clock) made
    · exact fun e asked => .pure Pool.handsOutDuly_error

end BurstyPool

namespace PingingPool
variable {wrap : PingingPool → Pool}

theorem get_handsOut (around : Pool.Around wrap) (pool : PingingPool) (timeout : Option Duration)
    (born : ∀ session ∈ pool.queue.sessions, session.creation ≠ none) (clock : Clock) :
    (pool.get (σ := Recorder σ) timeout).HearsFrom clock [] fun r heard ended =>
      (wrap pool).HandsOutDuly clock ended r.1 heard := by
  unfold get
  split
  · exact .pure Pool.handsOutDuly_error
  next entry queue popped =>
    have taken := around.pop?_of_popped popped
    have due : pool.queue.nextDue? = some entry.due := PingQueue.nextDue?_of_pop? popped
    have member : entry.session ∈ pool.queue.sessions := by
      rw [PingQueue.sessions_of_pop? popped]
      exact List.mem_cons_self
    obtain ⟨creation, known⟩ := Option.ne_none_iff_exists'.1 (born entry.session member)
    refine .looking ?_
    split
    next overdue =>
      refine Session.vetting known ?_ ?_ ?_
      · exact Pool.handOut_duly .confirmed ⟨_, creation, taken, known, rfl⟩
      · intro asked gone
        have made := pool.desk.replace_made (σ := σ) entry.session (clock.wait Clock.glance)
        exact Pool.handNew_duly (around.desk pool) (.replacing taken gone) (clock.passes_wait _)
          made
      · exact fun e asked => .pure Pool.handsOutDuly_error
    next inTime =>
      have shown := (Clock.Passes.refl clock).spans (clock.passes_wait Clock.glance)
      have trusts : (wrap pool).Trusts clock.now := by
        rw [around.trusts]
        exact ⟨entry.due, due, Int.not_lt.1 inTime⟩
      exact Pool.handOut_duly .trusted (.trusted_of_pop? taken shown trusts)

end PingingPool

theorem Pool.get_handsOut (pool : Pool) (timeout : Option Duration)
    (born : ∀ session ∈ pool.sessions, session.creation ≠ none) (clock : Clock) :
    (pool.get (σ := Recorder σ) timeout).HearsFrom clock [] fun r heard ended =>
      pool.HandsOutDuly clock ended r.1 heard := by
  have waited := clock.passes_wait (pool.waitingTime timeout)
  have later {r : Except Failure Session × Pool} {heard : List Exchange} {ended : Clock}
      (duly : pool.HandsOutDuly (clock.wait (pool.waitingTime timeout)) ended r.1 heard) :
      pool.HandsOutDuly clock ended r.1 heard := by
    intro session got
    obtain ⟨usable, ground, marked, handsOut⟩ := duly session got
    exact ⟨usable, ground, marked, handsOut.earlier waited⟩
  refine .waiting (.mono ?_ fun r heard ended duly => later duly)
  cases pool with
  | fixed pool => exact .map (pool.get_handsOut timeout born _)
  | bursty pool => exact .map (pool.get_handsOut born _)
  | pinging pool => exact .map (pool.get_handsOut .alone timeout born _)
  | transactionPinging pool =>
    obtain ⟨inner, pending⟩ := pool
    have queued : ∀ session ∈ inner.queue.sessions, session.creation ≠ none :=
      fun session member => born session (List.mem_append_left _ member)
    exact .map (.map (inner.get_handsOut (.waiting pending) timeout queued _))

end SessionPooling
