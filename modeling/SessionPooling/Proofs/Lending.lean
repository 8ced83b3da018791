import Mathlib.Data.List.Perm.Basic
import SessionPooling.Checkout
import SessionPooling.Pool.Build
import SessionPooling.Proofs.PoolBind
import SessionPooling.Proofs.PoolGet
import SessionPooling.Proofs.PoolPing
import SessionPooling.Proofs.PoolPut

/-! A pool and those who use it. A run is any list of operations on a pool, between which the
clock may move, the services may change by themselves, and callers may use the sessions that
they hold in any way that leaves them the same sessions. Callers give back only what they hold. A
run is that of one thread, which does one operation after another. -/
namespace SessionPooling

/-- A pool, its surroundings, and the sessions that callers hold. -/
structure Lending (σ : Type) where
  env : Env (Recorder σ)
  pool : Pool
  held : List Session

namespace PoolParts

def places (parts : PoolParts) : Nat := parts.size.getD PoolConfig.standard.size

theorem pool_capacity (parts : PoolParts) : parts.pool.capacity = parts.places := by
  obtain ⟨kind, _⟩ := parts
  cases kind <;> rfl

theorem pool_sessions (parts : PoolParts) : parts.pool.sessions = [] := by
  obtain ⟨kind, _⟩ := parts
  cases kind <;> rfl

theorem pool_checkedOut (parts : PoolParts) : parts.pool.desk.checkedOut = 0 := by
  obtain ⟨kind, _⟩ := parts
  cases kind <;> rfl

theorem pool_bounded {parts : PoolParts} (notBursty : parts.kind ≠ .bursty) :
    parts.pool.bounded := by
  obtain ⟨kind, _⟩ := parts
  cases kind with
  | bursty => exact (notBursty rfl).elim
  | _ => rfl

end PoolParts

namespace Lending

/-- What a caller may do with a session that it holds: anything that can be done with a session,
none of which gives it another name. -/
structure Use (σ : Type) where
  act : σ → Session → Session × σ
  keeps : ∀ services session, (act services session).1.creation = session.creation

inductive Op (σ : Type) where
  | bind (backend : BackendId)
  | get (timeout : Option Duration)
  /-- Gives back the session that is held at a place. -/
  | put (place : Nat)
  /-- Ends the scope whose session is held at a place. A scope begins like any taking. -/
  | release (place : Nat)
  | clear
  | ping
  | pingAllDue
  | beginPending
  | use (place : Nat) (use : Use σ)
  | outside (change : σ → σ)
  | moveClock (change : Clock → Clock)

variable {σ : Type}

/-- A new pool and services that were asked for nothing yet. -/
def start (parts : PoolParts) (clock : Clock) (services : σ) : Lending σ :=
  ⟨⟨clock, ⟨services, []⟩, []⟩, parts.pool, []⟩

/-- A start among callers who hold sessions that the pool knows nothing of. -/
def startAmong (strangers : List Session) (parts : PoolParts) (clock : Clock) (services : σ) :
    Lending σ :=
  { start parts clock services with held := strangers }

def heard (l : Lending σ) : List Exchange := l.env.service.heard

/-- Every session that is stored or held. -/
def owned (l : Lending σ) : List Session := l.pool.sessions ++ l.held

def operate (l : Lending σ) (work : Act (Recorder σ) (α × Pool)) (held : α → List Session) :
    Lending σ :=
  let ((result, pool), env) := work l.env
  ⟨env, pool, held result⟩

def useBy (l : Lending σ) (place : Nat) (use : Use σ) : Lending σ :=
  match l.held[place]? with
  | none => l
  | some session =>
    let (session, inner) := use.act l.env.service.inner session
    { l with
      env := { l.env with service := { l.env.service with inner } }
      held := l.held.set place session }

variable [Service σ]

/-- The end of a scope, on the system that has only this pool. -/
def giveBack (session : Session) (pool : Pool) : Act (Recorder σ) (Unit × Pool) := fun env =>
  let (_, sys) := Checkout.giveBack 0 session (⟨env, [pool], [], ()⟩ : System (Recorder σ) Unit)
  (((), sys.pools.headD pool), sys.env)

def step (l : Lending σ) : Op σ → Lending σ
  | .bind backend => l.operate (l.pool.bind backend) fun _ => l.held
  | .get timeout => l.operate (l.pool.get timeout) fun got => l.held ++ Pool.leaving got
  | .put place =>
    match l.held[place]? with
    | none => l
    | some session => l.operate (l.pool.put session) fun _ => l.held.eraseIdx place
  | .release place =>
    match l.held[place]? with
    | none => l
    | some session => l.operate (giveBack session l.pool) fun _ => l.held.eraseIdx place
  | .clear => l.operate l.pool.clear fun _ => l.held
  | .ping => l.operate l.pool.ping fun _ => l.held
  | .pingAllDue => l.operate l.pool.pingAllDue fun _ => l.held
  | .beginPending => l.operate l.pool.beginPending fun _ => l.held
  | .use place use => l.useBy place use
  | .outside change =>
    let services := { l.env.service with inner := change l.env.service.inner }
    { l with env := { l.env with service := services } }
  | .moveClock change => { l with env := { l.env with clock := change l.env.clock } }

def play (l : Lending σ) (ops : List (Op σ)) : Lending σ := ops.foldl step l

/-- The end of a scope is a giving back that is reported when it is refused. -/
theorem giveBack_eq (session : Session) (pool : Pool) (env : Env (Recorder σ)) :
    ∃ log, giveBack session pool env =
      (((), (pool.put session env).1.2), { (pool.put session env).2 with log }) := by
  rcases same : pool.put session env with ⟨⟨result, after⟩, outside⟩
  have done : Sys.onPool 0 (·.put session) (⟨env, [pool], [], ()⟩ : System (Recorder σ) Unit) =
      (.ofExcept result, ⟨outside, [after], [], ()⟩) := by
    simp [Sys.onPool, same]
  refine ⟨(giveBack session pool env).2.log, ?_⟩
  simp only [giveBack, Checkout.giveBack, bind, StateT.bind, done]
  cases result with
  | ok _ => rfl
  | error e => rfl

theorem giveBack_returned (session : Session) (pool : Pool) :
    (giveBack (σ := σ) session pool).Hears fun r heard =>
      ∃ result, pool.Returned session result r.2 heard := by
  intro env
  obtain ⟨heard, grown, returned⟩ := pool.put_returned session env
  obtain ⟨log, same⟩ := giveBack_eq session pool env
  refine ⟨heard, ?_, (pool.put session env).1.1, ?_⟩
  · rw [same]
    exact grown
  · rw [same]
    exact returned

/-- Nothing of a pool goes missing: its sessions and those that are held, all of which were
created, fit into it, and there is somewhere to create more. -/
structure Sound (l : Lending σ) : Prop where
  bound : l.pool.desk.backend ≠ none
  fits : l.owned.length ≤ l.pool.capacity
  born : ∀ session ∈ l.owned, session.creation ≠ none

def Op.IsBind : Op σ → Prop
  | .bind _ => True
  | _ => False

def Op.IsClear : Op σ → Prop
  | .clear => True
  | _ => False

/-- Whether an operation gives back the session that is held at a place. -/
def Op.GivesBack (op : Op σ) (place : Nat) : Prop := op = .put place ∨ op = .release place

/-- What an operation does: to the pool, and to what callers hold. -/
inductive Moved (l : Lending σ) (op : Op σ) (after : Lending σ) : List Exchange → Prop where
  | bound {backend result heard} (filling : op.IsBind)
      (bound : l.pool.Bound backend result after.pool heard) (held : after.held = l.held) :
      Moved l op after heard
  | took {result heard} (took : l.pool.Took result after.pool heard)
      (held : after.held = l.held ++ Pool.leaving result) : Moved l op after heard
  | returned {place session result heard} (gives : op.GivesBack place)
      (found : l.held[place]? = some session)
      (returned : l.pool.Returned session result after.pool heard)
      (held : after.held = l.held.eraseIdx place) : Moved l op after heard
  | cleared {heard} (emptying : op.IsClear) (cleared : l.pool.Cleared after.pool heard)
      (held : after.held = l.held) : Moved l op after heard
  | pinged {result heard} (pinged : l.pool.Pinged result after.pool heard)
      (held : after.held = l.held) : Moved l op after heard
  | pingedOn {heard} (went : l.pool.PingedOn after.pool heard) (held : after.held = l.held) :
      Moved l op after heard
  | settled {result} (settled : Pool.Settled l.pool result after.pool)
      (held : after.held = l.held) : Moved l op after []
  | used {place session used} (found : l.held[place]? = some session)
      (kept : used.creation = session.creation) (held : after.held = l.held.set place used)
      (pool : after.pool = l.pool) : Moved l op after []
  | untouched (pool : after.pool = l.pool) (held : after.held = l.held) : Moved l op after []

theorem step_moved (l : Lending σ) (op : Op σ) :
    ∃ heard, (l.step op).heard = l.heard ++ heard ∧ l.Moved op (l.step op) heard := by
  have silent : l.heard = l.heard ++ [] := (List.append_nil _).symm
  cases op with
  | bind backend =>
    obtain ⟨heard, grown, bound⟩ := l.pool.bind_bound backend l.env
    exact ⟨heard, grown, .bound trivial bound rfl⟩
  | get timeout =>
    obtain ⟨heard, grown, took⟩ := l.pool.get_took timeout l.env
    exact ⟨heard, grown, .took took rfl⟩
  | put place =>
    simp only [step]
    split
    · exact ⟨[], silent, .untouched rfl rfl⟩
    next session found =>
      obtain ⟨heard, grown, returned⟩ := l.pool.put_returned session l.env
      exact ⟨heard, grown, .returned (.inl rfl) found returned rfl⟩
  | release place =>
    simp only [step]
    split
    · exact ⟨[], silent, .untouched rfl rfl⟩
    next session found =>
      obtain ⟨heard, grown, result, returned⟩ := giveBack_returned session l.pool l.env
      exact ⟨heard, grown, .returned (.inr rfl) found returned rfl⟩
  | clear =>
    obtain ⟨heard, grown, cleared⟩ := l.pool.clear_cleared l.env
    exact ⟨heard, grown, .cleared trivial cleared rfl⟩
  | ping =>
    obtain ⟨heard, grown, pinged⟩ := l.pool.ping_pinged l.env
    exact ⟨heard, grown, .pinged pinged rfl⟩
  | pingAllDue =>
    obtain ⟨heard, grown, went⟩ := l.pool.pingAllDue_pingedOn l.env
    exact ⟨heard, grown, .pingedOn went rfl⟩
  | beginPending =>
    obtain ⟨_, grown, rfl, settled⟩ := l.pool.beginPending_settled l.env
    exact ⟨[], grown, .settled settled rfl⟩
  | use place use =>
    simp only [step, useBy]
    split
    · exact ⟨[], silent, .untouched rfl rfl⟩
    next session found => exact ⟨[], silent, .used found (use.keeps _ _) rfl rfl⟩
  | outside change => exact ⟨[], silent, .untouched rfl rfl⟩
  | moveClock change => exact ⟨[], silent, .untouched rfl rfl⟩

structure Stepped (l : Lending σ) (op : Op σ) (after : Lending σ) (heard : List Exchange) :
    Prop where
  grown : after.heard = l.heard ++ heard
  kin : l.pool.Kin after.pool
  turnover : Turnover (l.pool.bounded ∧ ¬ op.IsBind) (l.Sound ∧ ¬ op.IsClear) l.owned after.owned
    heard
  /-- A pool that holds no more than it has room for goes on like that. -/
  fits : l.pool.bounded → Desk.Measured heard → l.pool.sessions.length ≤ l.pool.capacity →
    after.pool.sessions.length ≤ l.pool.capacity
  backend : ¬ op.IsBind → after.pool.desk.backend = l.pool.desk.backend
  counted : l.pool.bounded → l.Sound → l.pool.desk.checkedOut = l.held.length →
    after.pool.desk.checkedOut = after.held.length

omit [Service σ] in
theorem Sound.ready {l : Lending σ} (sound : l.Sound) : l.pool.Ready := by
  refine ⟨?_, sound.bound⟩
  have := sound.fits
  rw [owned, List.length_append] at this
  omega

omit [Service σ] in
theorem owned_perm {l : Lending σ} {place : Nat} {session : Session}
    (found : l.held[place]? = some session) :
    (session :: l.pool.sessions ++ l.held.eraseIdx place).Perm l.owned := by
  obtain ⟨inRange, rfl⟩ := List.getElem?_eq_some_iff.1 found
  refine List.perm_middle.symm.trans ?_
  exact (List.getElem_cons_eraseIdx_perm inRange).append_left _

omit [Service σ] in
theorem Sound.put_ok {l : Lending σ} (sound : l.Sound) (isBounded : l.pool.bounded)
    {place : Nat} {session : Session} (found : l.held[place]? = some session)
    {result : Except Failure Unit} {after : Pool} {heard : List Exchange}
    (returned : l.pool.Returned session result after heard) : result = .ok () := by
  have member : session ∈ l.owned :=
    List.mem_append_right _ (List.mem_of_getElem? found)
  refine returned.ok_of_room isBounded ?_ (sound.born session member)
  have fits := sound.fits
  rw [← (owned_perm found).length_eq] at fits
  simp only [List.cons_append, List.length_cons, List.length_append] at fits
  omega

section
variable {l after : Lending σ} {op : Op σ} {heard : List Exchange}
omit [Service σ]

/-- What looking after the stored sessions does, while callers keep what they hold. -/
theorem stepped_of_upkeep (grown : after.heard = l.heard ++ heard) (kin : l.pool.Kin after.pool)
    (desk : after.pool.desk = l.pool.desk) (held : after.held = l.held)
    (turnover : Turnover l.pool.bounded l.pool.Ready l.pool.sessions after.pool.sessions heard) :
    l.Stepped op after heard := by
  refine ⟨grown, kin, ?_, fun isBounded _ fit => ?_, fun _ => congrArg _ desk, fun _ _ count => ?_⟩
  · rw [owned, owned, held]
    exact (turnover.append_right l.held).mono (fun h => h.1) fun _ whole => whole.1.ready
  · have := turnover.atMost isBounded
    omega
  · rw [desk, held]
    exact count

theorem stepped_of_took {got : Except Failure Session}
    (took : l.pool.Took got after.pool heard) (held : after.held = l.held ++ Pool.leaving got)
    (grown : after.heard = l.heard ++ heard) : l.Stepped op after heard := by
  refine ⟨grown, took.kin, ?_, fun isBounded _ fit => ?_, fun _ => ?_, fun _ _ count => ?_⟩
  · refine ((took.turnover.append_right l.held).mono (fun h => h.1) fun _ whole =>
      whole.1.ready).congr (.refl _) (.map _ ?_)
    rw [owned, held]
    refine (List.perm_append_comm.append_right l.held).trans ?_
    rw [List.append_assoc]
    exact List.perm_append_comm.append_left _
  · have := took.turnover.atMost isBounded
    rw [List.length_append] at this
    omega
  · rw [took.desk]
    split
    · rfl
    · rfl
  · rw [took.desk, held]
    cases got with
    | ok session => simpa [Pool.leaving, Desk.countOut] using count
    | error e => simpa [Pool.leaving] using count

/-- What giving back the session that is held at a place does, in a scope or not. -/
theorem stepped_of_returned {place : Nat} {session : Session}
    (found : l.held[place]? = some session) {result : Except Failure Unit}
    (returned : l.pool.Returned session result after.pool heard)
    (held : after.held = l.held.eraseIdx place) (grown : after.heard = l.heard ++ heard) :
    l.Stepped op after heard := by
  refine ⟨grown, returned.kin, ?_, fun isBounded _ fit => ?_, fun _ => returned.backend,
    fun isBounded sound count => ?_⟩
  · have moved := returned.turnover.append_right (l.held.eraseIdx place)
    rw [← held] at moved
    refine (moved.mono (fun h => h.1) fun h whole => whole.1.put_ok h.1 found returned).congr ?_
      (.refl _)
    rw [held]
    exact (owned_perm found).map _
  · rw [← returned.kin.capacity]
    exact returned.fits isBounded fit
  · obtain rfl := sound.put_ok isBounded found returned
    obtain ⟨inRange, -⟩ := List.getElem?_eq_some_iff.1 found
    rw [returned.desk_of_ok, held, List.length_eraseIdx_of_lt inRange, ← count]
    rfl

theorem stepped_of_used {place : Nat} {session used : Session}
    (found : l.held[place]? = some session) (name : used.id? = session.id?)
    (held : after.held = l.held.set place used) (pool : after.pool = l.pool)
    (grown : after.heard = l.heard) : l.Stepped op after [] := by
  refine ⟨grown.trans (List.append_nil _).symm, ?_, .same (.of_eq ?_) rfl, fun _ _ fit => ?_,
    fun _ => ?_, fun _ _ count => ?_⟩
  · rw [pool]
    exact .refl _
  · obtain ⟨inRange, rfl⟩ := List.getElem?_eq_some_iff.1 found
    rw [owned, owned, pool, held, List.map_append, List.map_append, List.map_set, name,
      ← List.map_set, List.set_getElem_self]
  · rw [pool]
    exact fit
  · rw [pool]
  · rw [pool, held, List.length_set]
    exact count

end

theorem step_stepped (l : Lending σ) (op : Op σ) : ∃ heard, l.Stepped op (l.step op) heard := by
  obtain ⟨heard, grown, moved⟩ := l.step_moved op
  refine ⟨heard, ?_⟩
  cases moved with
  | bound filling bound held =>
    -- Filling is bounded by nothing that counts what is held.
    refine ⟨grown, bound.kin, ?_, bound.fits, fun h => (h filling).elim, fun _ _ count => ?_⟩
    · rw [owned, owned, held]
      exact (bound.turnover.append_right l.held).mono (fun h => h.2 filling)
        fun h => (h.2 filling).elim
    · rw [bound.desk, held]
      exact count
  | took took held => exact stepped_of_took took held grown
  | returned gives found returned held => exact stepped_of_returned found returned held grown
  | cleared emptying cleared held =>
    refine ⟨grown, cleared.kin, .dropped ?_ cleared.only.quiet fun _ h => h.2 emptying,
      fun _ _ _ => ?_, fun _ => congrArg _ cleared.desk, fun _ _ count => ?_⟩
    · rw [owned, owned, held, cleared.sessions]
      exact .append_right (List.nil_sublist _) _
    · rw [cleared.sessions]
      exact Nat.zero_le _
    · rw [cleared.desk, held]
      exact count
  | pinged pinged held => exact stepped_of_upkeep grown pinged.kin pinged.desk held pinged.turnover
  | pingedOn went held => exact stepped_of_upkeep grown went.kin went.desk held went.turnover
  | settled settled held =>
    exact stepped_of_upkeep grown settled.kin settled.desk held settled.turnover
  | used found kept held pool =>
    exact stepped_of_used found (congrArg (Option.map _) kept) held pool
      (grown.trans (List.append_nil _))
  | untouched pool held =>
    refine stepped_of_upkeep grown ?_ (congrArg _ pool) held ?_
    · rw [pool]
      exact .refl _
    · rw [pool]
      exact .refl _

section
variable {l : Lending σ} {op : Op σ} {place : Nat}

theorem step_of_nothing (gives : op.GivesBack place) (nothing : l.held[place]? = none) :
    l.step op = l := by
  obtain rfl | rfl := gives
  · simp only [step, nothing]
  · simp only [step, nothing]

/-- The end of a scope gives a session back like any other operation that does. -/
theorem step_givesBack (gives : op.GivesBack place) {session : Session}
    (found : l.held[place]? = some session) :
    (l.step op).pool = (l.pool.put session l.env).1.2 ∧
      (∃ log, (l.step op).env = { (l.pool.put session l.env).2 with log }) ∧
      (l.step op).held = l.held.eraseIdx place := by
  obtain rfl | rfl := gives
  · simp only [step, found]
    exact ⟨rfl, ⟨_, rfl⟩, rfl⟩
  · obtain ⟨log, ended⟩ := giveBack_eq session l.pool l.env
    simp only [step, found, operate, ended]
    exact ⟨trivial, ⟨log, rfl⟩, trivial⟩

end

theorem play_append (l : Lending σ) (earlier later : List (Op σ)) :
    l.play (earlier ++ later) = (l.play earlier).play later :=
  List.foldl_append

/-- Every session that is owned in the end was owned before, or was given its name meanwhile,
and none has come to be owned twice. -/
theorem play_turnover (ops : List (Op σ)) :
    ∀ l : Lending σ, ∃ heard, (l.play ops).heard = l.heard ++ heard ∧
      Turnover False True l.owned (l.play ops).owned heard := by
  induction ops with
  | nil => exact fun l => ⟨[], (List.append_nil _).symm, .refl _⟩
  | cons op ops ih =>
    intro l
    obtain ⟨heard, stepped⟩ := l.step_stepped op
    obtain ⟨more, grown, turnover⟩ := ih (l.step op)
    refine ⟨heard ++ more, ?_, (stepped.turnover.mono False.elim False.elim).trans turnover⟩
    rw [← List.append_assoc, ← stepped.grown]
    exact grown

theorem heard_prefix_play (l : Lending σ) (ops : List (Op σ)) : l.heard <+: (l.play ops).heard := by
  obtain ⟨heard, grown, -⟩ := play_turnover ops l
  exact ⟨heard, grown.symm⟩

end Lending

/-! A pool stays one of its kind. -/

def Pool.kind : Pool → PoolKind
  | fixed _ => .fixed
  | bursty _ => .bursty
  | pinging _ => .pinging
  | transactionPinging _ => .transactionPinging

namespace Pool
variable {pool : Pool}

theorem exists_fixed (same : pool.kind = .fixed) : ∃ stack, pool = .fixed stack := by
  cases pool with
  | fixed stack => exact ⟨stack, rfl⟩
  | _ => cases same

theorem exists_pinging (same : pool.kind = .pinging) : ∃ queued, pool = .pinging queued := by
  cases pool with
  | pinging queued => exact ⟨queued, rfl⟩
  | _ => cases same

theorem exists_transactionPinging (same : pool.kind = .transactionPinging) :
    ∃ queues, pool = .transactionPinging queues := by
  cases pool with
  | transactionPinging queues => exact ⟨queues, rfl⟩
  | _ => cases same

end Pool

theorem PoolParts.pool_kind (parts : PoolParts) : parts.pool.kind = parts.kind := by
  obtain ⟨kind, _⟩ := parts
  cases kind <;> rfl

namespace Lending
variable {σ : Type} [Service σ]

theorem step_kind (l : Lending σ) (op : Op σ) : (l.step op).pool.kind = l.pool.kind := by
  obtain ⟨env, pool, held⟩ := l
  cases op with
  | put place =>
    simp only [step]
    split
    · rfl
    · cases pool <;> rfl
  | release place =>
    simp only [step]
    split
    · rfl
    next session found =>
      obtain ⟨log, given⟩ := giveBack_eq session pool env
      rw [operate, given]
      cases pool <;> rfl
  | use place use =>
    simp only [step, useBy]
    split <;> rfl
  | outside change => rfl
  | moveClock change => rfl
  | _ => cases pool <;> rfl

theorem play_kind (ops : List (Op σ)) : ∀ l : Lending σ, (l.play ops).pool.kind = l.pool.kind := by
  induction ops with
  | nil => exact fun _ => rfl
  | cons op ops ih => exact fun l => (ih (l.step op)).trans (l.step_kind op)

theorem startAmong_play_kind (strangers : List Session) (parts : PoolParts) (clock : Clock)
    (services : σ) (ops : List (Op σ)) :
    ((startAmong strangers parts clock services).play ops).pool.kind = parts.kind :=
  (play_kind ops _).trans parts.pool_kind

theorem play_kin (ops : List (Op σ)) : ∀ l : Lending σ, l.pool.Kin (l.play ops).pool := by
  induction ops with
  | nil => exact fun l => .refl l.pool
  | cons op ops ih =>
    intro l
    obtain ⟨heard, stepped⟩ := l.step_stepped op
    exact stepped.kin.trans (ih (l.step op))

theorem startAmong_play_capacity (strangers : List Session) (parts : PoolParts) (clock : Clock)
    (services : σ) (ops : List (Op σ)) :
    ((startAmong strangers parts clock services).play ops).pool.capacity = parts.places :=
  (play_kin ops _).capacity.trans parts.pool_capacity

end Lending
end SessionPooling
