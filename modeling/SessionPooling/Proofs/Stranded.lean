import SessionPooling.Proofs.Arrivals
import SessionPooling.Proofs.Capacity
import SessionPooling.Proofs.Dismissals

/-! Stranded sessions. A session that is live on the service where a pool creates its sessions is
stored, waits, or is held, as long as nothing goes wrong there; the only others are those that a
full pool did not take back. Such a pool does not take back a session only if it was filled while
sessions were out. -/
namespace SessionPooling

namespace Pool

/-- The session that is given back to a pool which keeps to its capacity and has no room for it. -/
def turnedAway (pool : Pool) (session : Session) (result : Except Failure Unit) : List Session :=
  if pool.bounded then rejected session result else []

/-- Giving a session back to a pool that keeps to its capacity asks for nothing. -/
theorem Returned.silent {pool after : Pool} {session : Session} {result : Except Failure Unit}
    {heard : List Exchange} (returned : pool.Returned session result after heard)
    (isBounded : pool.bounded) : heard = [] := by
  cases returned with
  | deleted isBursty => exact (Bool.false_ne_true (isBursty.symm.trans isBounded)).elim
  | _ => rfl

/-- What giving back does with the live sessions of a service, whatever the pool. -/
theorem put_accounts {σ : Type} [Service σ] (i : BackendId) (pool : Pool) (session : Session) :
    (pool.put (σ := Recorder σ) session).Hears fun r heard =>
      (∀ live liveAfter, Ledger i live heard liveAfter →
        Custody i (session :: pool.sessions) (r.2.sessions ++ pool.turnedAway session r.1) live
          liveAfter) ∧
      (pool.turnedAway session r.1 ≠ [] → heard = []) := by
  have ofBounded (isBounded : pool.bounded) {r : Except Failure Unit × Pool} {heard : List Exchange}
      (returned : pool.Returned session r.1 r.2 heard) :
      (∀ live liveAfter, Ledger i live heard liveAfter →
        Custody i (session :: pool.sessions) (r.2.sessions ++ pool.turnedAway session r.1) live
          liveAfter) ∧
      (pool.turnedAway session r.1 ≠ [] → heard = []) := by
    rw [turnedAway, if_pos isBounded]
    exact ⟨fun _ _ ledger => returned.custody isBounded ledger, fun _ => returned.silent isBounded⟩
  cases pool with
  | bursty pool =>
    refine .map ((pool.put_givenBack session).mono fun r heard given => ?_)
    refine ⟨fun live liveAfter ledger => ?_, fun stray => (stray rfl).elim⟩
    have custody := given.custody ledger
    rw [← List.append_nil r.2.stored] at custody
    exact custody
  | _ => exact (put_returned _ session).mono fun r heard returned => ofBounded rfl returned

end Pool

namespace Lending

/-- The sessions that are live on a service. -/
def live (l : Lending Fleet) (i : BackendId) : List SessionId := l.env.service.inner.liveOn i

/-- What callers do with a pool that creates its sessions on one service, and what happens
meanwhile: nothing is arranged to go wrong, and no one else creates a session there. -/
inductive Op.Tame (i : BackendId) : Op Fleet → Prop
  | bind : Tame i (.bind i)
  | get (timeout : Option Duration) : Tame i (.get timeout)
  | put (place : Nat) : Tame i (.put place)
  | release (place : Nat) : Tame i (.release place)
  | clear : Tame i .clear
  | ping : Tame i .ping
  | pingAllDue : Tame i .pingAllDue
  | beginPending : Tame i .beginPending
  | use (place : Nat) (handling : Use Fleet)
      (stays : ∀ fleet session, (handling.act fleet session).1.backend = session.backend)
      (keeps : ∀ fleet session, fleet.Reliable → (handling.act fleet session).2.Reliable ∧
        (handling.act fleet session).2.liveOn i ⊆ fleet.liveOn i) : Tame i (.use place handling)
  | outside (change : Fleet → Fleet)
      (keeps : ∀ fleet, fleet.Reliable →
        (change fleet).Reliable ∧ (change fleet).liveOn i ⊆ fleet.liveOn i) :
      Tame i (.outside change)
  | moveClock (change : Clock → Clock) : Tame i (.moveClock change)

/-- The session that a pool does not take back by an operation. -/
def Op.turnedAway {σ : Type} [Service σ] (l : Lending σ) : Op σ → List Session
  | .put place | .release place =>
    match l.held[place]? with
    | none => []
    | some session => l.pool.turnedAway session (l.pool.put session l.env).1.1
  | _ => []

theorem Op.turnedAway_of_givesBack {σ : Type} [Service σ] {l : Lending σ} {op : Op σ} {place : Nat}
    (gives : op.GivesBack place) :
    op.turnedAway l = match l.held[place]? with
      | none => []
      | some session => l.pool.turnedAway session (l.pool.put session l.env).1.1 := by
  obtain rfl | rfl := gives
  · rfl
  · rfl

/-- The sessions that were not taken back during a run. -/
def turnedAway {σ : Type} [Service σ] (l : Lending σ) : List (Op σ) → List Session
  | [] => []
  | op :: ops => op.turnedAway l ++ (l.step op).turnedAway ops

/-- A pool with no more sessions than places, which creates them on one service, and callers who
hold sessions of that service, among services where nothing is arranged to go wrong. -/
structure Tidy (i : BackendId) (l : Lending Fleet) : Prop where
  reliable : l.env.service.inner.Reliable
  faces : l.pool.desk.Faces i
  fits : l.pool.bounded → l.pool.sessions.length ≤ l.pool.capacity
  home : Session.OnlyAt i l.owned

theorem Tidy.stocked {i : BackendId} {l : Lending Fleet} (tidy : l.Tidy i) : l.pool.Stocked :=
  fun isBounded => Nat.le_trans l.pool.available_le_sessions (tidy.fits isBounded)

/-- What an operation does with the live sessions of a service. -/
structure Kept (i : BackendId) (l : Lending Fleet) (op : Op Fleet) (after : Lending Fleet)
    (heard : List Exchange) : Prop where
  grown : after.heard = l.heard ++ heard
  reliable : after.env.service.inner.Reliable
  measured : Desk.Measured heard
  custody : Custody i l.owned (after.owned ++ op.turnedAway l) (l.live i) (after.live i)
  silent : op.turnedAway l ≠ [] → heard = [] ∧ after.live i = l.live i

section
variable {i : BackendId} {l after : Lending Fleet} {op : Op Fleet} {heard : List Exchange}

/-- What looking after the stored sessions does with the live ones. -/
theorem kept_of_upkeep (grown : after.heard = l.heard ++ heard)
    (reliable : after.env.service.inner.Reliable) (measured : Desk.Measured heard)
    (held : after.held = l.held) (quiet : op.turnedAway l = [])
    (custody : Custody i l.pool.sessions after.pool.sessions (l.live i) (after.live i)) :
    l.Kept i op after heard := by
  refine ⟨grown, reliable, measured, ?_, fun stray => (stray quiet).elim⟩
  rw [quiet, List.append_nil, owned, owned, held]
  exact custody.append_right l.held

theorem kept_of_nothing (tidy : l.Tidy i) (same : l.step op = l) (quiet : op.turnedAway l = []) :
    l.Kept i op (l.step op) [] := by
  rw [same]
  exact kept_of_upkeep (List.append_nil _).symm tidy.reliable (List.forall_mem_nil _) rfl quiet
    (.refl _)

/-- What giving back the session that is held at a place does, in a scope or not. -/
theorem kept_of_givesBack {place : Nat} (tidy : l.Tidy i) (gives : op.GivesBack place) :
    ∃ heard, l.Kept i op (l.step op) heard := by
  have turned := Op.turnedAway_of_givesBack (l := l) gives
  cases found : l.held[place]? with
  | none =>
    rw [found] at turned
    exact ⟨[], kept_of_nothing tidy (step_of_nothing gives found) turned⟩
  | some session =>
    rw [found] at turned
    obtain ⟨pool, ⟨log, outside⟩, held⟩ := step_givesBack gives found
    have service : (l.step op).env.service = (l.pool.put session l.env).2.service := by
      rw [outside]
    obtain ⟨later, heard, ⟨custody, silent⟩, grown, ledger⟩ :=
      (l.pool.put_accounts i session).booked i tidy.reliable fun R alike =>
        l.pool.put_inStep alike session
    rw [← service] at later grown ledger
    refine ⟨heard, grown, later, ledger.measured, ?_, fun stray => ?_⟩
    · have moved := (custody _ _ ledger).append_right (l.held.eraseIdx place)
      refine moved.congr ((owned_perm found).map _) (.map _ ?_)
      rw [owned, pool, held, turned, List.append_assoc, List.append_assoc]
      exact List.perm_append_comm.append_left _
    · rw [turned] at stray
      obtain rfl := silent stray
      exact ⟨rfl, ledger.eq_of_nil⟩

/-- What a caller who uses a session does: the session stays the one that it is. -/
theorem kept_of_use (tidy : l.Tidy i) (place : Nat) (handling : Use Fleet)
    (stays : ∀ fleet session, (handling.act fleet session).1.backend = session.backend)
    (keeps : ∀ fleet session, fleet.Reliable → (handling.act fleet session).2.Reliable ∧
      (handling.act fleet session).2.liveOn i ⊆ fleet.liveOn i) :
    ∃ heard, l.Kept i (.use place handling) (l.step (.use place handling)) heard := by
  cases found : l.held[place]? with
  | none =>
    have same : l.step (.use place handling) = l := by simp only [step, useBy, found]
    exact ⟨[], kept_of_nothing tidy same rfl⟩
  | some session =>
    obtain ⟨reliable, fewer⟩ := keeps l.env.service.inner session tidy.reliable
    have handle : (handling.act l.env.service.inner session).1.handle = session.handle := by
      have created := handling.keeps l.env.service.inner session
      exact Prod.ext (stays _ _) (congrArg (Option.map _) created)
    obtain ⟨inRange, rfl⟩ := List.getElem?_eq_some_iff.1 found
    have sameHandles : ((l.step (.use place handling)).owned ++ []).map Session.handle =
        l.owned.map Session.handle := by
      simp only [step, useBy, found, owned, List.append_nil, List.map_append, List.map_set, handle]
      rw [← List.map_set, List.set_getElem_self]
    simp only [step, useBy, found] at sameHandles ⊢
    exact ⟨[], (List.append_nil _).symm, reliable, List.forall_mem_nil _,
      .same (.of_eq sameHandles) fewer, fun stray => (stray rfl).elim⟩

theorem step_kept (tidy : l.Tidy i) (tame : op.Tame i) :
    ∃ heard, l.Kept i op (l.step op) heard := by
  have still : l.heard = l.heard ++ [] := (List.append_nil _).symm
  have unmoved : Desk.Measured [] := List.forall_mem_nil _
  cases tame with
  | bind =>
    obtain ⟨later, heard, supplied, grown, ledger⟩ :=
      (l.pool.bind_supplied i tidy.fits).booked i tidy.reliable fun R alike =>
        l.pool.bind_inStep alike i
    exact ⟨heard, kept_of_upkeep grown later ledger.measured rfl rfl
      ((supplied ledger.measured).custody ledger)⟩
  | get timeout =>
    obtain ⟨later, heard, took, grown, ledger⟩ :=
      (l.pool.get_took timeout).booked i tidy.reliable fun R alike =>
        l.pool.get_inStep alike timeout
    refine ⟨heard, grown, later, ledger.measured, ?_, fun stray => (stray rfl).elim⟩
    have moved := (took.custody tidy.faces tidy.stocked ledger).append_right l.held
    refine moved.congr (.refl _) (.map _ ?_)
    change List.Perm _ (_ ++ (l.held ++ Pool.leaving _) ++ [])
    rw [List.append_nil, List.append_assoc, ← List.append_assoc _ l.held]
    exact List.perm_append_comm
  | put place => exact kept_of_givesBack tidy (.inl rfl)
  | release place => exact kept_of_givesBack tidy (.inr rfl)
  | clear =>
    have clears : (l.pool.clear (σ := Recorder Fleet)).Hears fun r heard =>
        l.pool.Cleared r.2 heard ∧ Session.Dismissed l.pool.sessions heard :=
      l.pool.clear_cleared.and l.pool.clear_dismissed
    obtain ⟨later, heard, ⟨cleared, dismissed⟩, grown, ledger⟩ :=
      clears.booked i tidy.reliable fun R alike => l.pool.clear_inStep alike
    refine ⟨heard, kept_of_upkeep grown later ledger.measured rfl rfl ?_⟩
    have empty : (l.step .clear).pool.sessions = [] := cleared.sessions
    rw [empty]
    exact dismissed.custody ledger
  | ping =>
    obtain ⟨later, heard, pinged, grown, ledger⟩ :=
      l.pool.ping_pinged.booked i tidy.reliable fun R alike => l.pool.ping_inStep alike
    exact ⟨heard, kept_of_upkeep grown later ledger.measured rfl rfl
      (pinged.custody tidy.faces tidy.stocked ledger)⟩
  | pingAllDue =>
    obtain ⟨later, heard, went, grown, ledger⟩ :=
      l.pool.pingAllDue_pingedOn.booked i tidy.reliable fun R alike =>
        l.pool.pingAllDue_inStep alike
    exact ⟨heard, kept_of_upkeep grown later ledger.measured rfl rfl
      (went.custody tidy.faces tidy.stocked ledger)⟩
  | beginPending =>
    obtain ⟨later, _, ⟨rfl, settled⟩, grown, ledger⟩ :=
      l.pool.beginPending_settled.booked i tidy.reliable fun R alike =>
        l.pool.beginPending_inStep alike
    refine ⟨[], kept_of_upkeep grown later unmoved rfl rfl ?_⟩
    have same : (l.step .beginPending).live i = l.live i := ledger.eq_of_nil
    rw [same]
    exact settled.custody tidy.fits
  | use place handling stays keeps => exact kept_of_use tidy place handling stays keeps
  | outside change keeps =>
    obtain ⟨reliable, fewer⟩ := keeps l.env.service.inner tidy.reliable
    exact ⟨[], kept_of_upkeep still reliable unmoved rfl rfl (.same (.refl _) fewer)⟩
  | moveClock change =>
    exact ⟨[], kept_of_upkeep still tidy.reliable unmoved rfl rfl (.refl _)⟩

/-- One step of a run of a tidy pool, which stays tidy. -/
theorem step_tidy (tidy : l.Tidy i) (tame : op.Tame i) :
    ∃ heard, l.Kept i op (l.step op) heard ∧ l.Stepped op (l.step op) heard ∧
      (l.step op).Tidy i := by
  obtain ⟨heard, kept⟩ := step_kept tidy tame
  obtain ⟨more, stepped⟩ := l.step_stepped op
  obtain rfl := List.append_cancel_left (kept.grown.symm.trans stepped.grown)
  have faces : (l.step op).pool.desk.Faces i := by
    intro backend bound
    by_cases filling : op.IsBind
    · cases tame with
      | bind =>
        obtain ⟨_, -, filled⟩ := l.pool.bind_bound i l.env
        have desk : (l.step (.bind i)).pool.desk = l.pool.desk.bind i := filled.desk
        rw [desk] at bound
        exact (Option.some.inj bound).symm
      | _ => exact filling.elim
    · rw [stepped.backend filling] at bound
      exact tidy.faces backend bound
  have fits (isBounded : (l.step op).pool.bounded) :
      (l.step op).pool.sessions.length ≤ (l.step op).pool.capacity := by
    rw [stepped.kin.bounded] at isBounded
    rw [stepped.kin.capacity]
    exact stepped.fits isBounded kept.measured (tidy.fits isBounded)
  have home := kept.custody.stays tidy.home
  exact ⟨heard, kept, stepped, kept.reliable, faces, fits, (List.forall_mem_append.1 home).1⟩

/-- Of a run: each live session is accounted for at its end if each was before it. -/
theorem play_tidy (ops : List (Op Fleet)) :
    ∀ {l : Lending Fleet}, l.Tidy i → (∀ op ∈ ops, op.Tame i) →
      (l.play ops).Tidy i ∧ Custody i l.owned ((l.play ops).owned ++ l.turnedAway ops)
        (l.live i) ((l.play ops).live i) := by
  induction ops with
  | nil =>
    intro l tidy _
    refine ⟨tidy, ?_⟩
    rw [turnedAway, List.append_nil]
    exact .refl _
  | cons op ops ih =>
    intro l tidy tame
    obtain ⟨here, others⟩ := List.forall_mem_cons.1 tame
    obtain ⟨heard, kept, -, tidyNext⟩ := step_tidy tidy here
    obtain ⟨tidyFinal, custody⟩ := ih tidyNext others
    refine ⟨tidyFinal, (kept.custody.trans (custody.append_right (op.turnedAway l))).congr
      (.refl _) (.map _ ?_)⟩
    rw [turnedAway, List.append_assoc]
    exact List.perm_append_comm.append_left _

end

/-! A pool turns away a session only when more are around than it has places. -/

section
variable {σ : Type} [Service σ] {places : Nat}

theorem Within.takes_back {l : Lending σ} (within : l.Within places 0)
    (born : ∀ session ∈ l.owned, session.creation ≠ none) {op : Op σ} {place : Nat}
    (gives : op.GivesBack place) : op.turnedAway l = [] := by
  rw [Op.turnedAway_of_givesBack gives]
  cases found : l.held[place]? with
  | none => rfl
  | some session =>
    obtain ⟨heard, -, returned⟩ := l.pool.put_returned session l.env
    have created := born session (List.mem_append_right _ (List.mem_of_getElem? found))
    have room : l.pool.sessions.length < l.pool.capacity := by
      have total := within.total
      rw [← (owned_perm found).length_eq, List.length_append, List.length_cons] at total
      rw [within.capacity]
      omega
    have taken := returned.ok_of_room within.isBounded room created
    dsimp only
    rw [taken, Pool.turnedAway, if_pos within.isBounded]
    rfl

theorem Within.turnedAway_eq_nil {l : Lending σ} (within : l.Within places 0)
    (born : ∀ session ∈ l.owned, session.creation ≠ none) (op : Op σ) : op.turnedAway l = [] := by
  cases op with
  | put place => exact within.takes_back born (.inl rfl)
  | release place => exact within.takes_back born (.inr rfl)
  | _ => rfl

end

theorem turnedAway_eq_nil {i : BackendId} {places : Nat} (ops : List (Op Fleet)) :
    ∀ {l : Lending Fleet}, l.Tidy i → (∀ op ∈ ops, op.Tame i) → l.Within places 0 →
      (∀ session ∈ l.owned, session.creation ≠ none) → l.mostOutWhenFilled ops = 0 →
      l.turnedAway ops = [] := by
  induction ops with
  | nil => exact fun _ _ _ _ _ => rfl
  | cons op ops ih =>
    intro l tidy tame within born none
    obtain ⟨here, others⟩ := List.forall_mem_cons.1 tame
    obtain ⟨heard, kept, stepped, tidyNext⟩ := step_tidy tidy here
    obtain ⟨noneNow, noneLater⟩ := Nat.max_eq_zero_iff.1 none
    have withinNext := within.step op stepped kept.measured
    rw [noneNow, Nat.max_self] at withinNext
    rw [turnedAway, within.turnedAway_eq_nil born op]
    exact ih tidyNext others withinNext (stepped.turnover.born born) noneLater

/-- Sessions may expire wherever they are live. -/
theorem Op.tame_expire (i j : BackendId) (session : SessionId) :
    Op.Tame i (.outside (Fleet.onMemory j (·.expire session))) :=
  .outside _ fun _ reliable => reliable.onMemory i j fun _ orderly => orderly.expire session

section
variable (parts : PoolParts) (clock : Clock) {services : Fleet} {i : BackendId}

theorem start_tidy (reliable : services.Reliable) : (start parts clock services).Tidy i := by
  have none : parts.pool.sessions = [] := parts.pool_sessions
  refine ⟨reliable, fun backend bound => ?_, fun _ => ?_, ?_⟩
  · have unbound : parts.pool.desk.backend = Option.none := by
      obtain ⟨kind, _⟩ := parts
      cases kind <;> rfl
    exact nomatch unbound.symm.trans bound
  · change parts.pool.sessions.length ≤ _
    rw [none]
    exact Nat.zero_le _
  · change Session.OnlyAt i (parts.pool.sessions ++ [])
    rw [none]
    exact List.forall_mem_nil _

/-- Every session that is live on the service where a pool creates its sessions is stored in the
pool, waits there, or is held, but for those that were given back when there was no room for them.
Giving back such a session asks for nothing, so it lives on; and there is none in a run that fills
the pool only while no session is out. -/
theorem play_strands_only_turned_away (ops : List (Op Fleet)) (notBursty : parts.kind ≠ .bursty)
    (reliable : services.Reliable) (unused : services.liveOn i = [])
    (tame : ∀ op ∈ ops, op.Tame i) :
    let begun := start parts clock services
    (∀ id ∈ (begun.play ops).live i, ∃ session ∈ (begun.play ops).owned ++ begun.turnedAway ops,
      session.backend = i ∧ session.id? = some id) ∧
    (∀ earlier op later, ops = earlier ++ op :: later →
      let before := begun.play earlier
      op.turnedAway before ≠ [] →
        (before.step op).heard = before.heard ∧ (before.step op).live i = before.live i) ∧
    (begun.mostOutWhenFilled ops = 0 → begun.turnedAway ops = []) := by
  intro begun
  have tidy : begun.Tidy i := start_tidy parts clock reliable
  have nothing : begun.owned = [] := congrArg (· ++ []) parts.pool_sessions
  refine ⟨fun id member => ?_, ?_, fun noneOut => ?_⟩
  · obtain ⟨-, custody⟩ := play_tidy ops tidy tame
    have none : begun.live i = [] := unused
    have covered : ∀ id ∈ begun.live i, some id ∈ begun.owned.map Session.id? := by
      rw [none]
      exact List.forall_mem_nil _
    have owned := custody.covers tidy.home covered id member
    obtain ⟨session, here, named⟩ := List.mem_map.1 owned
    exact ⟨session, here, custody.stays tidy.home session here, named⟩
  · rintro earlier op later rfl before stray
    obtain ⟨tameEarlier, tameRest⟩ := List.forall_mem_append.1 tame
    obtain ⟨tidyBefore, -⟩ := play_tidy earlier tidy tameEarlier
    obtain ⟨heard, kept⟩ := step_kept tidyBefore (tameRest op List.mem_cons_self)
    obtain ⟨rfl, same⟩ := kept.silent stray
    exact ⟨kept.grown.trans (List.append_nil _), same⟩
  · refine turnedAway_eq_nil ops tidy tame (start_within parts clock services notBursty) ?_ noneOut
    rw [nothing]
    exact List.forall_mem_nil _

end

/-- A pool that is filled again while its only session is out, and does not take that one back. -/
def refilled : List (Op Fleet) := [.bind 0, .get none, .bind 0, .put 0]

theorem refilled_tame : ∀ op ∈ refilled, op.Tame 0 := by
  simp only [refilled, List.forall_mem_cons]
  exact ⟨.bind, .get none, .bind, .put 0, List.forall_mem_nil _⟩

theorem reliable_new : (Fleet.ofBackends [.reliable (.fresh none none false) 0]).Reliable := by
  intro backend member
  obtain rfl := List.mem_singleton.1 member
  exact ⟨rfl, rfl, MemoryBackend.orderly_fresh none none false⟩

/-- The session that is turned away is the only one besides those of the pool. -/
theorem play_strands_only_turned_away_of_refilled :
    let parts := PoolParts.ofConfig { PoolConfig.standard with size := 1 }
    let services := Fleet.ofBackends [.reliable (.fresh none none false) 0]
    let begun := start parts .running services
    parts.kind ≠ .bursty ∧ services.Reliable ∧ services.liveOn 0 = [] ∧
      (∀ op ∈ refilled, op.Tame 0) ∧
      (begun.turnedAway refilled).map Session.id? = [some ⟨"session-1"⟩] ∧
      ∀ id ∈ (begun.play refilled).live 0,
        ∃ session ∈ (begun.play refilled).owned ++ begun.turnedAway refilled,
          session.backend = 0 ∧ session.id? = some id := by
  intro parts services begun
  have accounts := play_strands_only_turned_away parts .running refilled nofun reliable_new rfl
    refilled_tame
  exact ⟨nofun, reliable_new, rfl, refilled_tame, by decide +kernel, accounts.1⟩

/-- The session that is turned away is still live, though it is neither stored nor held. -/
theorem refilled_strands :
    let parts := PoolParts.ofConfig { PoolConfig.standard with size := 1 }
    let services := Fleet.ofBackends [.reliable (.fresh none none false) 0]
    let l := (start parts .running services).play refilled
    parts.kind ≠ .bursty ∧ services.Reliable ∧ services.liveOn 0 = [] ∧
      (∀ op ∈ refilled, op.Tame 0) ∧
      ∃ id ∈ l.live 0, some id ∉ l.owned.map Session.id? := by
  intro parts services l
  have stranded : ⟨"session-1"⟩ ∈ l.live 0 ∧ some ⟨"session-1"⟩ ∉ l.owned.map Session.id? := by
    decide +kernel
  exact ⟨nofun, reliable_new, rfl, refilled_tame, _, stranded⟩

end Lending
end SessionPooling
