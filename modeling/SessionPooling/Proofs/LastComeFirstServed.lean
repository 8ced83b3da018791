import SessionPooling.Proofs.Emptying
import SessionPooling.Proofs.NeverOverfull

/-! Last come, first served. A fixed and a bursty pool keep a stack: what is stored comes on top,
and what is taken is the top, which is handed out or another in its place, or stays where it is if
no one can tell whether it exists. So sessions leave in the reverse of the order in which they were
given back, whatever happens to them meanwhile. -/
namespace SessionPooling
variable {σ : Type}

/-- Taking a session from a stack, one that stays as it is when it is empty, whether or not a
session is created then. -/
inductive Desk.TookTop (desk : Desk) (bounded : Bool) :
    List Session → Except Failure Session → List Session → List Exchange → Prop where
  | handedOut {top rest session heard} (vetted : desk.Vetted top (.fit session) heard) :
      TookTop desk bounded (top :: rest) (.ok (session.setInUse true)) rest heard
  | lost {top rest e heard} (vetted : desk.Vetted top (.lost e) heard) :
      TookTop desk bounded (top :: rest) (.error e) rest heard
  | stays {top rest e heard} (vetted : desk.Vetted top (.unclear e) heard) :
      TookTop desk bounded (top :: rest) (.error e) (top :: rest) heard
  | exhausted (isBounded : bounded) (limit) :
      TookTop desk bounded [] (.error (.poolExhausted limit)) [] []
  | created {session heard} (isBursty : bounded = false)
      (created : desk.Created (.ok session) heard) :
      TookTop desk bounded [] (.ok (session.setInUse true)) [] heard
  | notCreated {e heard} (isBursty : bounded = false) (created : desk.Created (.error e) heard) :
      TookTop desk bounded [] (.error e) [] heard

theorem Desk.TookTop.suffix {desk : Desk} {bounded : Bool} {stack left : List Session}
    {result : Except Failure Session} {heard : List Exchange}
    (took : desk.TookTop bounded stack result left heard) : left <:+ stack := by
  cases took with
  | handedOut => exact List.suffix_cons _ _
  | lost => exact List.suffix_cons _ _
  | _ => exact List.suffix_rfl

namespace Pool

/-- A pool that keeps its sessions on a stack. -/
def Stacked (pool : Pool) : Prop := pool.kind = .fixed ∨ pool.kind = .bursty

section
variable {pool after : Pool} {result : Except Failure Session} {heard : List Exchange}

theorem Stacked.waiting (stacked : pool.Stacked) : pool.waiting = [] := by
  cases pool with
  | transactionPinging pool => rcases stacked with isFixed | isBursty <;> contradiction
  | _ => rfl

theorem Took.top (took : pool.Took result after heard) (stacked : pool.Stacked)
    (stocked : pool.Stocked) :
    pool.desk.TookTop pool.bounded pool.sessions result after.sessions heard := by
  have empty (nothing : pool.pop? = none) : pool.sessions = [] :=
    (sessions_of_nothing nothing).trans stacked.waiting
  cases took with
  | exhausted isBounded nothing limit =>
    rw [empty nothing]
    exact .exhausted isBounded limit
  | created isBursty nothing created =>
    rw [sessions_mapDesk, empty nothing]
    exact .created isBursty created
  | notCreated isBursty nothing created =>
    rw [empty nothing]
    exact .notCreated isBursty created
  | handedOut taken vetted =>
    rw [sessions_mapDesk, (popped_of_pop? taken).sessions]
    exact .handedOut vetted
  | lost taken vetted =>
    rw [(popped_of_pop? taken).sessions]
    exact .lost vetted
  | putBack taken vetted =>
    rw [(popped_of_pop? taken).sessions]
    exact .stays vetted
  | crowdedOut taken overfull => exact (overfull stocked).elim

end

variable [Service σ]

/-- What is given back comes on top if there is room, and otherwise leaves the stack as it is. -/
theorem Stacked.put {pool : Pool} (stacked : pool.Stacked) (session : Session)
    (env : Env (Recorder σ)) :
    let put := pool.put session env
    (pool.sessions.length < pool.capacity → put.1.1 = .ok () ∧
        put.1.2.sessions = session.setInUse false :: pool.sessions) ∧
      (pool.capacity ≤ pool.sessions.length → put.1.2.sessions = pool.sessions) := by
  cases pool with
  | fixed pool =>
    constructor
    · intro room
      have free : ¬ pool.size ≤ pool.stored.length := Nat.not_le_of_lt room
      simp only [Pool.put, FixedPool.put, FixedPool.push, free, if_false]
      exact ⟨rfl, rfl⟩
    · intro full
      have full : pool.size ≤ pool.stored.length := full
      simp only [Pool.put, FixedPool.put, FixedPool.push, full, if_true]
      rfl
  | bursty pool =>
    constructor
    · intro room
      have free : pool.stored.length < pool.targetSize := room
      simp only [Pool.put, BurstyPool.put, free, if_true]
      exact ⟨rfl, rfl⟩
    · intro full
      obtain ⟨heard, -, given⟩ := pool.put_givenBack session env
      generalize after : (pool.put session env).1.2 = next at given
      have sessions : ((bursty pool).put session env).1.2.sessions = next.stored :=
        congrArg BurstyPool.stored after
      cases given with
      | kept room => exact (Nat.not_lt_of_le full room).elim
      | dismissed enough dismissed => exact sessions
  | _ => rcases stacked with isFixed | isBursty <;> contradiction

theorem Stacked.numbered {pool : Pool} (stacked : pool.Stacked) : pool.Numbered := by
  cases pool with
  | pinging pool => rcases stacked with isFixed | isBursty <;> contradiction
  | _ => trivial

end Pool

namespace Lending

/-- The sessions that an operation puts on a stack, in the order in which it does. A bursty pool
is not filled. -/
inductive Piles [Service σ] (l : Lending σ) : Op σ → List Session → Prop where
  | stores {op come} (stores : l.Stores op come) : Piles l op come
  | onDemand (isBursty : l.pool.bounded = false) (backend) : Piles l (.bind backend) []

/-- The sessions that a run puts on a stack, in the order in which it does. -/
inductive Piled [Service σ] : Lending σ → List (Op σ) → List Session → Prop where
  | nil {l} : Piled l [] []
  | cons {l op ops come more} (piles : l.Piles op come) (others : (l.step op).Piled ops more) :
      Piled l (op :: ops) (come ++ more)

/-- What an operation puts on a stack comes on top of it, and nothing leaves from further down than
something that stays. -/
def KeepsStack [Service σ] (l : Lending σ) (op : Op σ) : Prop :=
  ∃ come left, l.Piles op come ∧ left <:+ l.pool.sessions ∧
    (l.step op).pool.sessions = come.reverse ++ left

/-- Whether an operation leaves the pool alone. -/
def Op.isApart : Op σ → Bool
  | .use .. => true
  | .outside _ => true
  | .moveClock _ => true
  | _ => false

def Op.isReturn : Op σ → Bool
  | .put _ => true
  | .release _ => true
  | _ => false

def Op.isGet : Op σ → Bool
  | .get _ => true
  | _ => false

variable [Service σ] {l : Lending σ}

theorem step_apart {op : Op σ} (apart : op.isApart) : (l.step op).pool = l.pool := by
  cases op with
  | use place use =>
    simp only [step, useBy]
    split <;> rfl
  | outside change => rfl
  | moveClock change => rfl
  | _ => cases apart

theorem step_stacked (stacked : l.pool.Stacked) (op : Op σ) : (l.step op).pool.Stacked := by
  unfold Pool.Stacked
  rw [l.step_kind op]
  exact stacked

theorem play_stacked (stacked : l.pool.Stacked) (ops : List (Op σ)) :
    (l.play ops).pool.Stacked := by
  unfold Pool.Stacked
  rw [play_kind ops l]
  exact stacked

/-- A stack is not looked after. -/
theorem step_upkeep {op : Op σ} (stacked : l.pool.Stacked)
    (upkeep : op = .ping ∨ op = .pingAllDue ∨ op = .beginPending) : l.step op = l := by
  obtain ⟨env, pool, held⟩ := l
  cases pool with
  | fixed pool => rcases upkeep with rfl | rfl | rfl <;> rfl
  | bursty pool => rcases upkeep with rfl | rfl | rfl <;> rfl
  | _ => rcases stacked with isFixed | isBursty <;> contradiction

omit [Service σ] in
theorem sessions_filled {pool after : Pool} {fresh : List Session} {begun ended : Clock}
    (filled : pool.FilledWith fresh begun ended after) (isFixed : pool.kind = .fixed) :
    after.sessions = fresh.reverse ++ pool.sessions := by
  cases filled with
  | stacked pool desk => rfl
  | queued queued sessions => cases isFixed

theorem bind_piles (stacked : l.pool.Stacked) (stocked : l.pool.Stocked) (backend : BackendId) :
    ∃ come, l.Piles (.bind backend) come ∧
      (l.step (.bind backend)).pool.sessions = come.reverse ++ l.pool.sessions := by
  rcases stacked with isFixed | isBursty
  · have stacked : l.pool.Stacked := .inl isFixed
    obtain ⟨heard, accepted, fresh, grown, batches, born, filled⟩ :=
      Pool.bind_fills (.inl isFixed) stocked stacked.numbered backend l.env
    exact ⟨fresh, .stores (.filled grown batches born), sessions_filled filled isFixed⟩
  · obtain ⟨env, pool, held⟩ := l
    cases pool with
    | bursty pool => exact ⟨[], .onDemand rfl backend, rfl⟩
    | _ => cases isBursty

theorem step_keepsStack (stacked : l.pool.Stacked) (stocked : l.pool.Stocked) (op : Op σ) :
    l.KeepsStack op := by
  have untouched (stores : l.Stores op []) (same : (l.step op).pool.sessions = l.pool.sessions) :
      l.KeepsStack op :=
    ⟨[], _, .stores stores, List.suffix_rfl, same⟩
  have pinged (pings : op = .ping ∨ op = .pingAllDue) (same : l.step op = l) :
      l.KeepsStack op := by
    refine untouched (.refreshed pings ?_ .nil .none) (congrArg (·.pool.sessions) same)
    exact (congrArg heard same).trans (List.append_nil _).symm
  have givesBack {place : Nat} (gives : op.GivesBack place) : l.KeepsStack op := by
    cases found : l.held[place]? with
    | none =>
      exact untouched (.keptOut gives (.inl found))
        (congrArg (·.pool.sessions) (step_of_nothing gives found))
    | some session =>
      obtain ⟨put, -, -⟩ := step_givesBack gives found
      obtain ⟨kept, turnedAway⟩ := stacked.put session l.env
      rcases Nat.lt_or_ge l.pool.sessions.length l.pool.capacity with room | full
      · refine ⟨_, _, .stores (.givenBack gives found room), List.suffix_rfl, ?_⟩
        rw [put]
        exact (kept room).2
      · refine untouched (.keptOut gives (.inr full)) ?_
        rw [put]
        exact turnedAway full
  cases op with
  | bind backend =>
    obtain ⟨come, piles, sessions⟩ := bind_piles stacked stocked backend
    exact ⟨come, _, piles, List.suffix_rfl, sessions⟩
  | get timeout =>
    obtain ⟨heard, -, took⟩ := l.pool.get_took timeout l.env
    exact ⟨[], _, .stores (.taken timeout), (took.top stacked stocked).suffix, rfl⟩
  | put place => exact givesBack (.inl rfl)
  | release place => exact givesBack (.inr rfl)
  | clear =>
    obtain ⟨heard, -, cleared⟩ := l.pool.clear_cleared l.env
    exact ⟨[], [], .stores .emptied, List.nil_suffix, cleared.sessions⟩
  | ping => exact pinged (.inl rfl) (step_upkeep stacked (.inl rfl))
  | pingAllDue => exact pinged (.inr rfl) (step_upkeep stacked (.inr (.inl rfl)))
  | beginPending =>
    have same := step_upkeep stacked (.inr (.inr rfl))
    exact untouched .nothingWaits (congrArg (·.pool.sessions) same)
  | use place use => exact untouched (.used place use) (congrArg Pool.sessions (step_apart rfl))
  | outside change => exact untouched (.outside change) rfl
  | moveClock change => exact untouched (.clockMoved change) rfl

/-- What is stored in the end is in the order in which it was stored. -/
theorem play_piles (ops : List (Op σ)) :
    ∀ {l : Lending σ}, l.pool.Stacked → l.pool.Stocked →
      ∃ arrivals, l.Piled ops arrivals ∧
        (l.play ops).pool.sessions.reverse.Sublist (l.pool.sessions.reverse ++ arrivals) := by
  induction ops with
  | nil => exact fun _ _ => ⟨[], .nil, (List.append_nil _).symm ▸ .refl _⟩
  | cons op ops ih =>
    intro l stacked stocked
    obtain ⟨come, left, piles, stays, sessions⟩ := step_keepsStack stacked stocked op
    obtain ⟨more, piled, inOrder⟩ := ih (step_stacked stacked op) (stocked_step stocked op)
    refine ⟨come ++ more, .cons piles piled, ?_⟩
    rw [sessions, List.reverse_append, List.reverse_reverse, List.append_assoc] at inOrder
    exact inOrder.trans (stays.sublist.reverse.append_right _)

/-- The session that an operation gives back, if there is one. -/
def returning (l : Lending σ) : Op σ → List Session
  | .put place => l.held[place]?.toList
  | .release place => l.held[place]?.toList
  | _ => []

/-- The sessions that are given back in the course of a run, in the order in which they are. -/
def returned (l : Lending σ) : List (Op σ) → List Session
  | [] => []
  | op :: ops => l.returning op ++ (l.step op).returned ops

/-- Whether each taking of a session in the course of a run succeeds. -/
def getsAll (l : Lending σ) : List (Op σ) → Bool
  | [] => true
  | .get timeout :: ops =>
    (l.pool.get timeout l.env).1.1.isOk && (l.step (.get timeout)).getsAll ops
  | op :: ops => (l.step op).getsAll ops

/-- Sessions leave a stack one after another, from the top: each is handed out, or another in its
place; or it stays where it is, or is gone for good, for the reason that the services gave. -/
inductive HandsOutFor : Lending σ → List (Op σ) → List Session → List Session → Prop where
  | done {l tops} : HandsOutFor l [] tops tops
  | meanwhile {l op ops tops left} (apart : op.isApart)
      (others : (l.step op).HandsOutFor ops tops left) : HandsOutFor l (op :: ops) tops left
  | took {l timeout ops top tops left session heard}
      (ok : (l.pool.get timeout l.env).1.1 = .ok (session.setInUse true))
      (grown : (l.step (.get timeout)).heard = l.heard ++ heard)
      (vetted : l.pool.desk.Vetted top (.fit session) heard)
      (others : (l.step (.get timeout)).HandsOutFor ops tops left) :
      HandsOutFor l (.get timeout :: ops) (top :: tops) left
  | stays {l timeout ops top tops left e heard}
      (failed : (l.pool.get timeout l.env).1.1 = .error e)
      (grown : (l.step (.get timeout)).heard = l.heard ++ heard)
      (vetted : l.pool.desk.Vetted top (.unclear e) heard)
      (others : (l.step (.get timeout)).HandsOutFor ops (top :: tops) left) :
      HandsOutFor l (.get timeout :: ops) (top :: tops) left
  | lost {l timeout ops top tops left e heard}
      (failed : (l.pool.get timeout l.env).1.1 = .error e)
      (grown : (l.step (.get timeout)).heard = l.heard ++ heard)
      (vetted : l.pool.desk.Vetted top (.lost e) heard)
      (others : (l.step (.get timeout)).HandsOutFor ops tops left) :
      HandsOutFor l (.get timeout :: ops) (top :: tops) left

/-- If there is room for it, the session that is given back comes on top. -/
theorem step_returns {op : Op σ} (stacked : l.pool.Stacked)
    (returns : (op.isReturn || op.isApart) = true)
    (room : l.pool.sessions.length + (l.returning op).length ≤ l.pool.capacity) :
    (l.step op).pool.sessions =
      ((l.returning op).map (·.setInUse false)).reverse ++ l.pool.sessions := by
  have givesBack {place : Nat} (gives : op.GivesBack place)
      (same : l.returning op = l.held[place]?.toList) :
      (l.step op).pool.sessions =
        ((l.returning op).map (·.setInUse false)).reverse ++ l.pool.sessions := by
    rw [same] at room ⊢
    cases found : l.held[place]? with
    | none =>
      rw [step_of_nothing gives found]
      rfl
    | some session =>
      rw [found, Option.toList_some, List.length_singleton] at room
      rw [(step_givesBack gives found).1]
      exact ((stacked.put session l.env).1 room).2
  cases op with
  | put place => exact givesBack (.inl rfl) rfl
  | release place => exact givesBack (.inr rfl) rfl
  | use place use => exact congrArg Pool.sessions (step_apart rfl)
  | outside change => rfl
  | moveClock change => rfl
  | _ => cases returns

/-- By induction on the run: each session comes on top of those that were given back before. -/
theorem play_returns (puts : List (Op σ)) :
    ∀ {l : Lending σ}, l.pool.Stacked → puts.all (fun op => op.isReturn || op.isApart) →
      l.pool.sessions.length + (l.returned puts).length ≤ l.pool.capacity →
      (l.play puts).pool.sessions =
        ((l.returned puts).map (·.setInUse false)).reverse ++ l.pool.sessions := by
  induction puts with
  | nil => exact fun _ _ _ => rfl
  | cons op ops ih =>
    intro l stacked returns room
    rw [List.all_cons, Bool.and_eq_true] at returns
    obtain ⟨returnsOne, returnsMore⟩ := returns
    rw [returned, List.length_append] at room
    obtain ⟨heard, stepped⟩ := l.step_stepped op
    have stored := step_returns stacked returnsOne (by omega)
    have others := ih (step_stacked stacked op) returnsMore
    rw [stored, stepped.kin.capacity, List.length_append, List.length_reverse,
      List.length_map] at others
    rw [returned, List.map_append, List.reverse_append, List.append_assoc]
    exact others (by omega)

/-- Sessions are taken, one after another, from the first of those on a stack, which leaves some of
them. If every taking succeeds, each takes one away. -/
def Unstacks (l : Lending σ) (gets : List (Op σ)) (tops below : List Session) : Prop :=
  ∃ left, l.HandsOutFor gets tops left ∧ (l.play gets).pool.sessions = left ++ below ∧
    (l.getsAll gets → tops.length = gets.countP Op.isGet + left.length)

theorem unstacks_aside {op : Op σ} {ops : List (Op σ)} {tops below : List Session}
    (apart : op.isApart) (others : (l.step op).Unstacks ops tops below) :
    l.Unstacks (op :: ops) tops below := by
  obtain ⟨left, handsOut, ended, all⟩ := others
  refine ⟨left, .meanwhile apart handsOut, ended, fun every => ?_⟩
  cases op with
  | use place use => exact all every
  | outside change => exact all every
  | moveClock change => exact all every
  | _ => cases apart

/-- One session is taken from the top, and then others from what that leaves. -/
theorem unstacks_get {timeout : Option Duration} {ops : List (Op σ)} {top : Session}
    {tops below : List Session} (stacked : l.pool.Stacked) (stocked : l.pool.Stocked)
    (same : l.pool.sessions = top :: tops ++ below)
    (others : ∀ next, tops.length ≤ next.length →
      (l.step (.get timeout)).pool.sessions = next ++ below →
      (l.step (.get timeout)).Unstacks ops next below) :
    l.Unstacks (.get timeout :: ops) (top :: tops) below := by
  obtain ⟨heard, grown, took⟩ := l.pool.get_took timeout l.env
  replace took := took.top stacked stocked
  rw [same, List.cons_append] at took
  generalize got : (l.pool.get timeout l.env).1.1 = result at took
  generalize after : (l.pool.get timeout l.env).1.2.sessions = remaining at took
  have failing {e : Failure} (failed : (l.pool.get timeout l.env).1.1 = .error e) :
      l.getsAll (.get timeout :: ops) = false := by
    rw [getsAll, failed]
    rfl
  cases took with
  | handedOut vetted =>
    obtain ⟨left, handsOut, ended, all⟩ := others tops (Nat.le_refl _) after
    refine ⟨left, .took got grown vetted handsOut, ended, fun every => ?_⟩
    rw [getsAll, Bool.and_eq_true] at every
    have counted := all every.2
    rw [List.countP_cons_of_pos rfl, List.length_cons]
    omega
  | lost vetted =>
    obtain ⟨left, handsOut, ended, -⟩ := others tops (Nat.le_refl _) after
    refine ⟨left, .lost got grown vetted handsOut, ended, fun every => ?_⟩
    exact (Bool.false_ne_true ((failing got).symm.trans every)).elim
  | stays vetted =>
    obtain ⟨left, handsOut, ended, -⟩ := others (top :: tops) (Nat.le_succ _) after
    refine ⟨left, .stays got grown vetted handsOut, ended, fun every => ?_⟩
    exact (Bool.false_ne_true ((failing got).symm.trans every)).elim

/-- By induction on the run: as long as something is left of the first sessions, those below them
do not matter. -/
theorem play_unstacks (gets : List (Op σ)) :
    ∀ {l : Lending σ} {tops below : List Session}, l.pool.Stacked → l.pool.Stocked →
      gets.all (fun op => op.isGet || op.isApart) → gets.countP Op.isGet ≤ tops.length →
      l.pool.sessions = tops ++ below → l.Unstacks gets tops below := by
  induction gets with
  | nil =>
    intro l tops below _ _ _ _ same
    exact ⟨tops, .done, same, fun _ => (Nat.zero_add _).symm⟩
  | cons op ops ih =>
    intro l tops below stacked stocked takes few same
    rw [List.all_cons, Bool.and_eq_true] at takes
    obtain ⟨takesOne, takesMore⟩ := takes
    have others {next : List Session} (enough : ops.countP Op.isGet ≤ next.length)
        (after : (l.step op).pool.sessions = next ++ below) :
        (l.step op).Unstacks ops next below :=
      ih (step_stacked stacked op) (stocked_step stocked op) takesMore enough after
    have aside (apart : op.isApart) (enough : ops.countP Op.isGet ≤ tops.length) :
        l.Unstacks (op :: ops) tops below :=
      unstacks_aside apart (others enough ((congrArg Pool.sessions (step_apart apart)).trans same))
    cases op with
    | get timeout =>
      rw [List.countP_cons_of_pos rfl] at few
      obtain ⟨top, rest, rfl⟩ := List.exists_cons_of_length_pos (Nat.lt_of_lt_of_le (by omega) few)
      refine unstacks_get stacked stocked same fun next atLeast after => others ?_ after
      exact Nat.le_trans (Nat.le_of_succ_le_succ few) atLeast
    | use place use => exact aside rfl few
    | outside change => exact aside rfl few
    | moveClock change => exact aside rfl few
    | _ => cases takesOne

/-- A pool of so many places whose stack is kept by every operation, is taken from at the top, and
gets on top what is given back while there is room. -/
structure StacksUp (l : Lending σ) (places : Nat) : Prop where
  step : ∀ op, l.KeepsStack op
  get : ∀ timeout,
    let got := l.pool.get timeout l.env
    ∃ heard, got.2.service.heard = l.heard ++ heard ∧
      l.pool.desk.TookTop l.pool.bounded l.pool.sessions got.1.1 got.1.2.sessions heard
  put : ∀ session,
    let put := l.pool.put session l.env
    (l.pool.sessions.length < places → put.1.1 = .ok () ∧
        put.1.2.sessions = session.setInUse false :: l.pool.sessions) ∧
      (places ≤ l.pool.sessions.length → put.1.2.sessions = l.pool.sessions)

/-- In every run of a fixed or a bursty pool, what is stored is in the order in which it was stored,
last on top; each operation keeps the stack; taking takes the top, which stays if no one can tell
whether it exists; and what is given back comes on top. So when sessions are given back one after
another, and there is room for them, as many takings as that hand them out in the reverse order,
or others in their place, with what was below left as it was. One that fails leaves the session
where it is, or finds it gone and cannot replace it. -/
theorem play_stacks_up (strangers : List Session) (parts : PoolParts) (clock : Clock)
    (services : σ) (ops : List (Op σ)) (kind : parts.kind = .fixed ∨ parts.kind = .bursty) :
    let begun := startAmong strangers parts clock services
    let l := begun.play ops
    (∃ arrivals, begun.Piled ops arrivals ∧ l.pool.sessions.reverse.Sublist arrivals) ∧
      l.StacksUp parts.places ∧
      ∀ puts gets, puts.all (fun op => op.isReturn || op.isApart) →
        gets.all (fun op => op.isGet || op.isApart) →
        l.pool.sessions.length + (l.returned puts).length ≤ parts.places →
        gets.countP Op.isGet = (l.returned puts).length →
        let mid := l.play puts
        let tops := ((l.returned puts).map (·.setInUse false)).reverse
        mid.pool.sessions = tops ++ l.pool.sessions ∧
          ∃ left, mid.HandsOutFor gets tops left ∧
            (mid.play gets).pool.sessions = left ++ l.pool.sessions ∧
            (mid.getsAll gets → left = []) := by
  intro begun l
  have empty : begun.pool.sessions = [] := parts.pool_sessions
  have stackedFirst : begun.pool.Stacked := by
    rw [← parts.pool_kind] at kind
    exact kind
  have stockedFirst : begun.pool.Stocked := stocked_startAmong strangers parts clock services
  have stacked : l.pool.Stacked := play_stacked stackedFirst ops
  have stocked : l.pool.Stocked := stocked_play ops stockedFirst
  have capacity : l.pool.capacity = parts.places :=
    startAmong_play_capacity strangers parts clock services ops
  refine ⟨?_, ⟨step_keepsStack stacked stocked, fun timeout => ?_, fun session => ?_⟩, ?_⟩
  · obtain ⟨arrivals, piled, inOrder⟩ := play_piles ops stackedFirst stockedFirst
    rw [empty] at inOrder
    exact ⟨arrivals, piled, inOrder⟩
  · obtain ⟨heard, grown, took⟩ := l.pool.get_took timeout l.env
    exact ⟨heard, grown, took.top stacked stocked⟩
  · exact capacity ▸ stacked.put session l.env
  · intro puts gets returns takes room count mid tops
    have returned : mid.pool.sessions = tops ++ l.pool.sessions :=
      play_returns puts stacked returns (capacity ▸ room)
    have length : tops.length = gets.countP Op.isGet := by
      rw [count, List.length_reverse, List.length_map]
    obtain ⟨left, handsOut, ended, all⟩ := play_unstacks gets
      (play_stacked stacked puts) (stocked_play puts stocked) takes (Nat.le_of_eq length.symm)
      returned
    refine ⟨returned, left, handsOut, ended, fun every => List.eq_nil_of_length_eq_zero ?_⟩
    have counted := all every
    omega

/-- Three sessions come back to a bursty pool, and the second of them expires. -/
theorem play_stacks_up_of_expired :
    let parts := PoolParts.ofConfig { PoolConfig.standard with kind := .bursty, size := 3 }
    let clock := Clock.startingAt ⟨0, by decide⟩
    let services := Fleet.ofBackends [.reliable (.fresh none none false) 0]
    let l := (startAmong [] parts clock services).play
      [.bind 0, .get none, .get none, .get none]
    let puts : List (Op Fleet) := [.put 0, .put 0,
      .outside (Fleet.onMemory 0 (·.expire ⟨"session-2"⟩)), .put 0]
    let gets : List (Op Fleet) := [.get none, .get none, .get none]
    let mid := l.play puts
    ((parts.kind = .fixed ∨ parts.kind = .bursty) ∧
      puts.all (fun op => op.isReturn || op.isApart) ∧
      gets.all (fun op => op.isGet || op.isApart) ∧
      l.pool.sessions.length + (l.returned puts).length ≤ parts.places ∧
      gets.countP Op.isGet = (l.returned puts).length ∧ mid.getsAll gets) ∧
      (mid.play gets).held.map (·.id?) =
        [some ⟨"session-3"⟩, some ⟨"session-4"⟩, some ⟨"session-1"⟩] ∧
      mid.HandsOutFor gets ((l.returned puts).map (·.setInUse false)).reverse [] := by
  intro parts clock services l puts gets mid
  have returns : puts.all (fun op => op.isReturn || op.isApart) := by decide
  have takes : gets.all (fun op => op.isGet || op.isApart) := by decide
  have room : l.pool.sessions.length + (l.returned puts).length ≤ parts.places := by
    decide +kernel
  have count : gets.countP Op.isGet = (l.returned puts).length := by decide +kernel
  have every : mid.getsAll gets := by decide +kernel
  have held : (mid.play gets).held.map (·.id?) =
      [some ⟨"session-3"⟩, some ⟨"session-4"⟩, some ⟨"session-1"⟩] := by decide +kernel
  obtain ⟨-, -, unstacks⟩ := play_stacks_up [] parts clock services
    [.bind 0, .get none, .get none, .get none] (.inr rfl)
  obtain ⟨-, left, handsOut, -, all⟩ := unstacks puts gets returns takes room count
  obtain rfl := all every
  exact ⟨⟨.inr rfl, returns, takes, room, count, every⟩, held, handsOut⟩

end Lending
end SessionPooling
