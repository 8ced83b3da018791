import SessionPooling.Backend.Fleet
import SessionPooling.Proofs.Schedule
import SessionPooling.Retry.Executor

/-! The trail of a retrying run: the attempts that it makes, one after another, and its sleeps
between them. Each attempt is the work on a fresh transaction and, where that succeeds, the
commit; the trail says nothing of when a run goes on, which is for its schedule to say. Without
random delays a run keeps to that schedule in all that it does. -/
namespace SessionPooling.Executor
variable {σ κ α : Type}

/-- One attempt of a run. -/
structure Try (α : Type) where
  /-- The clock as the attempt begins. -/
  start : Clock
  ending : Outcome α
  /-- The clock as its ending is known. -/
  stop : Clock
  drawn : Nat
  /-- How long the run sleeps before the next attempt, if there is one. -/
  pause : Option Duration

def Try.seen (a : Try α) : Retry.Seen α := ⟨a.ending, a.stop.now, a.drawn⟩

/-- What a run does to the system between two attempts. -/
structure Paused [Service σ] (x : Nat) (delay : Duration) (before after : System σ κ) : Prop where
  clock : after.env.clock = (before.env.clock.wait Clock.glance).sleep delay
  /-- At most one number is drawn. -/
  service : after.env.service = before.env.service ∨
    after.env.service = (Service.draw before.env.service).2
  pools : after.pools = before.pools
  executors : after.executors =
    before.executors.modify x fun e => { e with stats := countRetry e.stats }
  own : after.own = before.own

/-- What a run does to the system after its last attempt. -/
structure Left (before after : System σ κ) : Prop where
  clock : after.env.clock = before.env.clock ∨
    after.env.clock = before.env.clock.wait Clock.glance
  pools : after.pools = before.pools
  own : after.own = before.own

variable [Service σ]

/-- How an attempt ends: as its work did, unless that succeeded, and then as its commit did. -/
inductive Attempted (work : Transaction → Sys σ κ (Outcome α × Transaction)) (session : Session)
    (sys : System σ κ) : Outcome α → Session → System σ κ → Prop where
  | unborn (never : session.creation = none) :
      Attempted work session sys (.error (.invalidOperation .sessionNotCreated)) session sys
  | failed {creation e t after} (born : session.creation = some creation)
      (worked : work (.fresh creation.id session.backend) sys = ((.error e, t), after)) :
      Attempted work session sys (.error e) { session with transaction := some t } after
  | panicked {creation t after} (born : session.creation = some creation)
      (worked : work (.fresh creation.id session.backend) sys = ((.panic, t), after)) :
      Attempted work session sys .panic { session with transaction := some t } after
  | notCommitted {creation value t mid e left after} (born : session.creation = some creation)
      (worked : work (.fresh creation.id session.backend) sys = ((.ok value, t), mid))
      (refused : Sys.act t.commit mid = ((.error e, left), after)) :
      Attempted work session sys (.error e) { session with transaction := some left } after
  | committed {creation value t mid time done after} (born : session.creation = some creation)
      (worked : work (.fresh creation.id session.backend) sys = ((.ok value, t), mid))
      (committed : Sys.act t.commit mid = ((.ok time, done), after)) :
      Attempted work session sys (.ok value) { session with transaction := some done } after

/-- The attempts from number `number` on, each of which is counted as it begins. -/
inductive Trail (x : Nat) (work : Work σ κ α) :
    Nat → Session → System σ κ → List (Try α) → System σ κ → Prop where
  | nil {number session sys} : Trail x work number session sys [] sys
  | last {number session sys ending after afterwards final drawn}
      (attempted : Attempted (work number) session (Sys.count x countAttempt sys).2 ending
        afterwards after)
      (left : Left after final) :
      Trail x work number session sys [⟨sys.env.clock, ending, after.env.clock, drawn, none⟩] final
  | next {number session sys ending after afterwards resumed drawn delay tries final}
      (attempted : Attempted (work number) session (Sys.count x countAttempt sys).2 ending
        afterwards after)
      (paused : Paused x delay after resumed)
      (rest : Trail x work (number + 1) afterwards resumed tries final) :
      Trail x work number session sys
        (⟨sys.env.clock, ending, after.env.clock, drawn, some delay⟩ :: tries) final

theorem Trail.attempted {x number : Nat} {work : Work σ κ α} {session : Session}
    {sys final : System σ κ} {tries : List (Try α)}
    (trail : Trail x work number session sys tries final) :
    ∀ a ∈ tries, ∃ number session before afterwards after,
      Attempted (work number) session before a.ending afterwards after := by
  induction trail with
  | nil => exact List.forall_mem_nil _
  | last attempted left => exact List.forall_mem_singleton.2 ⟨_, _, _, _, _, attempted⟩
  | next attempted paused rest ih =>
    exact List.forall_mem_cons.2 ⟨⟨_, _, _, _, _, attempted⟩, ih⟩

/-- The attempts of a run keep to a schedule, which comes to a result with the last of them or
asks for more. -/
inductive Kept (config : RetryConfig) (deadline : Option Instant) :
    Nat → List (Try α) → Option (Outcome α) → Prop where
  | nil {number} : Kept config deadline number [] none
  | last {number a result} (plain : config.jitter = false → a.drawn = 0)
      (stops : Retry.next config deadline number a.seen = .stop result) (none : a.pause = none) :
      Kept config deadline number [a] (some result)
  | next {number a delay tries result} (plain : config.jitter = false → a.drawn = 0)
      (pauses : Retry.next config deadline number a.seen = .pause delay)
      (slept : a.pause = some delay) (rest : Kept config deadline (number + 1) tries result) :
      Kept config deadline number (a :: tries) result

section
variable {config : RetryConfig} {deadline : Option Instant} {number : Nat} {tries : List (Try α)}
  {result : Option (Outcome α)}
omit [Service σ]

theorem Kept.schedule_eq (kept : Kept config deadline number tries result) :
    Retry.schedule config deadline number (tries.map Try.seen) =
      ⟨tries.length, tries.filterMap Try.pause, result⟩ := by
  induction kept with
  | nil => rfl
  | last plain stops none => simp [Retry.schedule, stops, none]
  | next plain pauses slept rest ih => simp [Retry.schedule, pauses, slept, ih]

theorem Kept.seen_of_fixed (kept : Kept config deadline number tries result)
    (fixed : config.jitter = false) :
    tries.map Try.seen = tries.map fun a => ⟨a.ending, a.stop.now, 0⟩ := by
  induction kept with
  | nil => rfl
  | last plain stops none => simp only [List.map_cons, List.map_nil, Try.seen, plain fixed]
  | next plain pauses slept rest ih => simp only [List.map_cons, Try.seen, plain fixed, ih]

end

omit [Service σ] in
theorem Left.refl (sys : System σ κ) : Left sys sys := ⟨.inl rfl, rfl, rfl⟩

/-- What an attempt comes to, for the run that makes it. -/
inductive Judged : Outcome α → Session → System σ κ → Verdict α → Session → System σ κ → Prop where
  | done {session sys} (value : α) : Judged (.ok value) session sys (.done value) session sys
  | conflict {session sys} (e : Failure) (isConflict : e.isConflict) :
      Judged (.error e) session sys (.conflict e) session sys
  | failed {session sys session' sys'} (e : Failure) (noConflict : e.isConflict = false)
      (left : Left sys sys') : Judged (.error e) session sys (.failed e) session' sys'
  | panicked {session sys} : Judged .panic session sys .panicked session sys

omit [Service σ] in
theorem Judged.ofFailure (e : Failure) (session : Session) (sys : System σ κ) :
    Judged (.error e) session sys (.ofFailure e : Verdict α) session sys := by
  unfold Verdict.ofFailure
  split
  next isConflict => exact .conflict e isConflict
  next noConflict => exact .failed e (eq_false_of_ne_true noConflict) (.refl sys)

theorem rollback_clock (t : Transaction) (env : Env σ) : (t.rollback env).2.clock = env.clock := by
  obtain ⟨session, backend, stage, mutations⟩ := t
  cases stage <;> rfl

theorem requestCommit_clock (t : Transaction) (id : TransactionId) (env : Env σ) :
    (t.requestCommit id env).2.clock = env.clock := by
  rcases asked : Act.ask t.backend (.commit t.session id t.mutations) env with ⟨reply, after⟩
  have same : after.clock = env.clock := congrArg (fun ended => ended.2.clock) asked.symm
  unfold Transaction.requestCommit
  simp only [bind, StateT.bind, asked]
  cases reply with
  | error e => exact same
  | ok time => exact same

theorem commit_clock (t : Transaction) (env : Env σ) :
    (t.commit env).2.clock = env.clock := by
  obtain ⟨session, backend, stage, mutations⟩ := t
  cases stage with
  | committed id time => rfl
  | rolledBack id => rfl
  | begun id => exact requestCommit_clock _ id env
  | pending =>
    rcases asked : Act.ask backend (.begin session) env with ⟨reply, after⟩
    have same : after.clock = env.clock := congrArg (fun ended => ended.2.clock) asked.symm
    unfold Transaction.commit Transaction.requestBegin
    simp only [bind, StateT.bind, asked]
    cases reply with
    | error e => exact same
    | ok id => exact (requestCommit_clock _ id after).trans same

theorem abandon_clock (t : Transaction) (cause : Failure) (env : Env σ) :
    (abandon t cause env).2.clock = env.clock := by
  have rolled := rollback_clock t env
  unfold abandon
  split
  · rfl
  · rcases same : t.rollback env with ⟨⟨reply, left⟩, after⟩
    rw [same] at rolled
    simp only [bind, StateT.bind, same]
    cases reply with
    | ok _ => exact rolled
    | error e => exact rolled

section
variable {work : Transaction → Sys σ κ (Outcome α × Transaction)} {session : Session}
  {sys mid : System σ κ} {creation : Creation} {outcome : Outcome α} {t : Transaction}

theorem attempt_eq (born : session.creation = some creation)
    (worked : work (.fresh creation.id session.backend) sys = ((outcome, t), mid)) :
    attempt session work sys =
      (((settle t outcome mid.env).1.1,
          { session with transaction := some (settle t outcome mid.env).1.2 }),
        { mid with env := (settle t outcome mid.env).2 }) := by
  have fresh : session.newTransaction =
      .ok { session with transaction := some (.fresh creation.id session.backend) } := by
    rw [Session.newTransaction, born]
  unfold attempt
  rw [fresh]
  simp only [bind, StateT.bind, worked]
  rfl

theorem attempt_of_unborn (never : session.creation = none) (sys : System σ κ) :
    attempt session work sys =
      ((.failed (.invalidOperation .sessionNotCreated), session), sys) := by
  unfold attempt
  rw [Session.newTransaction, never]
  rfl

/-- Every attempt ends in one of the ways there are, and the run takes it for what it is. -/
theorem attempt_attempted (session : Session)
    (work : Transaction → Sys σ κ (Outcome α × Transaction)) (sys : System σ κ) :
    ∃ ending afterwards after, Attempted work session sys ending afterwards after ∧
      Judged ending afterwards after (attempt session work sys).1.1 (attempt session work sys).1.2
        (attempt session work sys).2 := by
  cases known : session.creation with
  | none =>
    rw [attempt_of_unborn known]
    exact ⟨_, _, _, .unborn known, .failed _ rfl (.refl sys)⟩
  | some creation =>
    rcases worked : work (.fresh creation.id session.backend) sys with ⟨⟨outcome, t⟩, mid⟩
    rw [attempt_eq known worked]
    cases outcome with
    | panic => exact ⟨_, _, _, .panicked known worked, .panicked⟩
    | error e =>
      refine ⟨_, _, _, .failed known worked, ?_⟩
      unfold settle
      dsimp only
      split
      next isConflict => exact .conflict e isConflict
      next noConflict =>
        have left : Left mid { mid with env := (abandon t e mid.env).2 } :=
          ⟨.inl (abandon_clock t e mid.env), rfl, rfl⟩
        exact .failed e (eq_false_of_ne_true noConflict) left
    | ok value =>
      rcases ended : t.commit mid.env with ⟨⟨reply, left⟩, env⟩
      have acted : Sys.act t.commit mid = ((reply, left), { mid with env }) := by
        rw [Sys.act, ended]
      cases reply with
      | ok time =>
        have settled : settle t (.ok value) mid.env = ((.done value, left), env) := by
          simp only [settle, bind, StateT.bind, ended]
          rfl
        rw [settled]
        exact ⟨_, _, _, .committed known worked acted, .done value⟩
      | error e =>
        have settled : settle t (.ok value) mid.env = ((.ofFailure e, left), env) := by
          simp only [settle, bind, StateT.bind, ended]
          rfl
        rw [settled]
        exact ⟨_, _, _, .notCommitted known worked acted, .ofFailure e _ _⟩

end

theorem drawFor_draws (config : RetryConfig) (conflict : Failure) (env : Env σ) :
    let drawn := drawFor config conflict env
    (config.jitter = false → drawn.1 = 0) ∧
      (drawn.2 = env ∨ drawn.2 = { env with service := (Service.draw env.service).2 }) := by
  unfold drawFor
  split
  next asked => exact ⟨fun fixed => (Bool.false_ne_true (fixed.symm.trans asked.1)).elim, .inr rfl⟩
  · exact ⟨fun _ => rfl, .inl rfl⟩

/-- How a run goes on after a conflict, as its schedule has it. -/
inductive Decided (α : Type) (x : Nat) (config : RetryConfig) (state : RetryState)
    (conflict : Failure) (drawn : Nat) (sys : System σ κ) : AfterConflict → System σ κ → Prop where
  | gaveUp {final}
      (stops : Retry.afterConflict (α := α) config state.deadline state.attempt conflict
        sys.env.clock.now drawn = .stop (.error conflict))
      (left : Left sys final) : Decided α x config state conflict drawn sys .giveUp final
  | panicked {final}
      (stops : Retry.afterConflict (α := α) config state.deadline state.attempt conflict
        sys.env.clock.now drawn = .stop .panic)
      (left : Left sys final) : Decided α x config state conflict drawn sys .panic final
  | paused {delay resumed}
      (pauses : Retry.afterConflict (α := α) config state.deadline state.attempt conflict
        sys.env.clock.now drawn = .pause delay)
      (paused : Paused x delay sys resumed) :
      Decided α x config state conflict drawn sys
        (.retry { state with lastDelay := some delay }) resumed

theorem delayUntilRetry_decided (x : Nat) (config : RetryConfig) (conflict : Failure)
    (state : RetryState) (sys : System σ κ) :
    ∃ drawn, (config.jitter = false → drawn = 0) ∧
      Decided α x config state conflict drawn sys (delayUntilRetry x config conflict state sys).1
        (delayUntilRetry x config conflict state sys).2 := by
  have expired : state.expiredAt sys.env.clock.now =
      state.deadline.any fun latest => decide (latest ≤ sys.env.clock.now) := by
    unfold RetryState.expiredAt
    cases state.deadline <;> rfl
  have overshot (delay : Duration) : state.overshoots sys.env.clock.now delay =
      state.deadline.any fun latest => decide (latest < sys.env.clock.now.after delay) := by
    unfold RetryState.overshoots
    cases state.deadline <;> rfl
  unfold delayUntilRetry
  simp only [bind, StateT.bind, Sys.act, Act.now, Clock.look]
  by_cases reached : state.expiredAt sys.env.clock.now
  · rw [if_pos reached]
    refine ⟨0, fun _ => rfl, .gaveUp ?_ ⟨.inr rfl, rfl, rfl⟩⟩
    rw [Retry.afterConflict, ← expired, if_pos reached]
  · rw [if_neg reached]
    have draws := drawFor_draws config conflict
      ⟨sys.env.clock.wait Clock.glance, sys.env.service, sys.env.log⟩
    rcases drawing : drawFor config conflict
      (⟨sys.env.clock.wait Clock.glance, sys.env.service, sys.env.log⟩ : Env σ) with ⟨drawn, env⟩
    rw [drawing] at draws
    obtain ⟨plain, same⟩ := draws
    have clock : env.clock = sys.env.clock.wait Clock.glance := by
      rcases same with rfl | rfl
      · rfl
      · rfl
    have service : env.service = sys.env.service ∨
        env.service = (Service.draw sys.env.service).2 := by
      rcases same with rfl | rfl
      · exact .inl rfl
      · exact .inr rfl
    refine ⟨drawn, plain, ?_⟩
    simp only [bind, StateT.bind, Sys.act, drawing]
    cases hinted : Retry.delay? config conflict.hint? state.attempt drawn with
    | none =>
      refine .panicked ?_ ⟨.inr clock, rfl, rfl⟩
      rw [Retry.afterConflict, ← expired, if_neg reached, hinted]
    | some delay =>
      by_cases late : state.overshoots sys.env.clock.now delay
      · simp only [if_pos late]
        refine .gaveUp ?_ ⟨.inr clock, rfl, rfl⟩
        simp only [Retry.afterConflict, ← expired, if_neg reached, hinted, ← overshot, if_pos late]
      · simp only [if_neg late]
        refine .paused ?_ ⟨congrArg (Clock.sleep · delay) clock, service, rfl, rfl, rfl⟩
        simp only [Retry.afterConflict, ← expired, if_neg reached, hinted, ← overshot, if_neg late]

/-- How a run that has `remaining` attempts left came to its outcome. -/
structure Course (x : Nat) (config : RetryConfig) (deadline : Option Instant) (work : Work σ κ α)
    (remaining number : Nat) (session : Session) (sys : System σ κ) (outcome : Outcome α)
    (final : System σ κ) (tries : List (Try α)) : Prop where
  trail : Trail x work number session sys tries final
  exists_result : ∃ result, Kept config deadline number tries result ∧
    (result = some outcome ∨ result = none ∧ tries.length = remaining ∧ outcome = .panic)
  length_le : tries.length ≤ remaining

section
variable {x : Nat} {config : RetryConfig} {deadline : Option Instant} {work : Work σ κ α}
  {remaining number drawn : Nat} {session afterwards : Session} {sys after final : System σ κ}
  {ending outcome : Outcome α}

theorem Course.last
    (attempted : Attempted (work number) session (Sys.count x countAttempt sys).2 ending afterwards
      after)
    (left : Left after final) (plain : config.jitter = false → drawn = 0)
    (stops : Retry.next config deadline number ⟨ending, after.env.clock.now, drawn⟩ =
      .stop outcome) :
    Course x config deadline work (remaining + 1) number session sys outcome final
      [⟨sys.env.clock, ending, after.env.clock, drawn, none⟩] :=
  ⟨.last attempted left, ⟨_, .last plain stops rfl, .inl rfl⟩, Nat.le_add_left 1 remaining⟩

theorem Course.next {delay : Duration} {resumed : System σ κ} {tries : List (Try α)}
    (attempted : Attempted (work number) session (Sys.count x countAttempt sys).2 ending afterwards
      after)
    (paused : Paused x delay after resumed) (plain : config.jitter = false → drawn = 0)
    (pauses : Retry.next config deadline number ⟨ending, after.env.clock.now, drawn⟩ =
      .pause delay)
    (rest : Course x config deadline work remaining (number + 1) afterwards resumed outcome final
      tries) :
    Course x config deadline work (remaining + 1) number session sys outcome final
      (⟨sys.env.clock, ending, after.env.clock, drawn, some delay⟩ :: tries) := by
  obtain ⟨trail, ⟨result, kept, ends⟩, short⟩ := rest
  refine ⟨.next attempted paused trail, ⟨result, .next plain pauses rfl kept, ?_⟩,
    Nat.succ_le_succ short⟩
  obtain ended | ⟨unfinished, all, panicked⟩ := ends
  · exact .inl ended
  · exact .inr ⟨unfinished, congrArg (· + 1) all, panicked⟩

end

/-- Every run is a course of attempts: the induction is on how many of them it has left. -/
theorem attempts_course (x : Nat) (config : RetryConfig) (work : Work σ κ α) (remaining : Nat) :
    ∀ (state : RetryState) (session : Session) (sys : System σ κ), ∃ tries,
      Course x config state.deadline work remaining (state.attempt + 1) session sys
        (attempts x config work remaining state session sys).1.1
        (attempts x config work remaining state session sys).2 tries := by
  induction remaining with
  | zero =>
    exact fun state session sys => ⟨[], .nil, ⟨none, .nil, .inr ⟨rfl, rfl, rfl⟩⟩, Nat.le_refl 0⟩
  | succ remaining ih =>
    intro state session sys
    rcases counted : Sys.count x countAttempt sys with ⟨_, begun⟩
    obtain ⟨ending, afterwards, after, attempted, judged⟩ :=
      attempt_attempted session (work (state.attempt + 1)) begun
    rcases made : attempt session (work (state.attempt + 1)) begun with ⟨⟨verdict, session'⟩, sys'⟩
    rw [made] at judged
    unfold attempts
    simp only [bind, StateT.bind, counted, made]
    obtain rfl : (Sys.count x countAttempt sys).2 = begun := congrArg Prod.snd counted
    have undrawn : config.jitter = false → 0 = 0 := fun _ => rfl
    cases judged with
    | done value => exact ⟨_, .last attempted ⟨.inr rfl, rfl, rfl⟩ undrawn rfl⟩
    | panicked => exact ⟨_, .last attempted (.refl _) undrawn rfl⟩
    | failed e noConflict left =>
      refine ⟨_, .last attempted left undrawn ?_⟩
      simp [Retry.next, noConflict]
      rfl
    | conflict e isConflict =>
      obtain ⟨drawn, plain, decided⟩ := delayUntilRetry_decided (α := α) x config e
        { state with attempt := state.attempt + 1 } sys'
      rcases delayed : delayUntilRetry x config e { state with attempt := state.attempt + 1 } sys'
        with ⟨afterConflict, final⟩
      rw [delayed] at decided
      simp only [StateT.bind, delayed]
      have follows : Retry.next (α := α) config state.deadline (state.attempt + 1)
          ⟨.error e, sys'.env.clock.now, drawn⟩ =
            Retry.afterConflict config state.deadline (state.attempt + 1) e sys'.env.clock.now
              drawn := by
        simp [Retry.next, isConflict]
      cases decided with
      | gaveUp stops left => exact ⟨_, .last attempted left plain (follows.trans stops)⟩
      | panicked stops left => exact ⟨_, .last attempted left plain (follows.trans stops)⟩
      | @paused delay resumed pauses paused =>
        obtain ⟨tries, rest⟩ := ih ⟨state.attempt + 1, state.deadline, some delay⟩ session' final
        exact ⟨_, .next attempted paused plain (follows.trans pauses) rest⟩

omit [Service σ] in
theorem Left.sleeps_eq {before after : System σ κ} (left : Left before after) :
    after.env.clock.sleeps = before.env.clock.sleeps := by
  obtain same | looked := left.clock
  · rw [same]
  · rw [looked, Clock.sleeps_wait]

/-- Where the work does not sleep on the clock, the sleeps that it tells are those of the run. -/
theorem Trail.sleeps_eq {x number : Nat} {work : Work σ κ α} {session : Session}
    {sys final : System σ κ} {tries : List (Try α)}
    (trail : Trail x work number session sys tries final)
    (noOthers : ∀ a ∈ tries, a.stop.sleeps = a.start.sleeps) :
    final.env.clock.sleeps = sys.env.clock.sleeps ++ tries.filterMap Try.pause := by
  induction trail with
  | nil => exact (List.append_nil _).symm
  | last attempted left =>
    rw [left.sleeps_eq]
    exact (noOthers _ List.mem_cons_self).trans (List.append_nil _).symm
  | @next number session sys ending after afterwards resumed drawn delay tries final attempted
      paused rest ih =>
    have slept : after.env.clock.sleeps = sys.env.clock.sleeps := noOthers _ List.mem_cons_self
    have resumes : resumed.env.clock.sleeps = sys.env.clock.sleeps ++ [delay] := by
      rw [paused.clock, Clock.sleeps_sleep, Clock.sleeps_wait, slept]
    rw [ih fun a member => noOthers a (List.mem_cons_of_mem _ member), resumes, List.append_assoc]
    rfl

/-- The system as it stands when a run that was let in begins its attempts. -/
def entered (x : Nat) (thread : Thread) (sys : System σ κ) : System σ κ :=
  let counted := (Sys.count x countInvocation (enter x thread sys).2).2
  { counted with env := { counted.env with clock := counted.env.clock.wait Clock.glance } }

/-- The attempts of a whole run, which takes back its mark after them. -/
def Made (x : Nat) (thread : Thread) (work : Work σ κ α) (session : Session) (sys : System σ κ)
    (tries : List (Try α)) (final : System σ κ) : Prop :=
  ∃ left, Trail x work 1 session (entered x thread sys) tries left ∧ final = (leave x thread left).2

theorem runWithTimeout_made {x : Nat} {thread : Thread} {sys : System σ κ} {executor : Executor}
    (session : Session) (timeout : Option Duration) (work : Work σ κ α)
    (found : sys.executors[x]? = some executor) (free : thread ∉ executor.running) :
    let ended := runWithTimeout x thread session timeout work sys
    ∃ tries left, ended.2 = (leave x thread left).2 ∧
      Course x executor.config (timeout.map sys.env.clock.now.after) work attemptLimit 1 session
        (entered x thread sys) ended.1.1 left tries := by
  intro ended
  obtain ⟨tries, course⟩ := attempts_course x executor.config work attemptLimit
    (.entered sys.env.clock.now timeout) session (entered x thread sys)
  have same : ended =
      let run := attempts x executor.config work attemptLimit
        (.entered sys.env.clock.now timeout) session (entered x thread sys)
      (run.1, (leave x thread run.2).2) := by
    simp only [ended, runWithTimeout, found, if_neg free]
    rfl
  rw [same]
  exact ⟨tries, _, rfl, course⟩

/-- A run with no random delays keeps to the schedule of its settings, and its deadline is the
timeout after the time of its entry. It makes the attempts that are scheduled and sleeps between
them as is scheduled, and the result that is scheduled is its own. A schedule without a result is
one of conflicts without end, for which a run has no numbers left. -/
theorem run_follows_schedule {x : Nat} {thread : Thread} {sys : System σ κ} {executor : Executor}
    (session : Session) (timeout : Option Duration) (work : Work σ κ α)
    (found : sys.executors[x]? = some executor) (free : thread ∉ executor.running)
    (fixed : executor.config.jitter = false) :
    let ended := runWithTimeout x thread session timeout work sys
    ∃ tries, Made x thread work session sys tries ended.2 ∧
      let plan := Retry.schedule executor.config (timeout.map sys.env.clock.now.after) 1
        (tries.map fun a => ⟨a.ending, a.stop.now, 0⟩)
      plan.attempts = tries.length ∧ plan.sleeps = tries.filterMap Try.pause ∧
        (plan.result = some ended.1.1 ∨
          plan.result = none ∧ tries.length = attemptLimit ∧ ended.1.1 = .panic) ∧
        ((∀ a ∈ tries, a.stop.sleeps = a.start.sleeps) →
          ended.2.env.clock.sleeps = sys.env.clock.sleeps ++ plan.sleeps) := by
  intro ended
  obtain ⟨tries, left, same, trail, ⟨result, kept, ends⟩, -⟩ :=
    runWithTimeout_made session timeout work found free
  refine ⟨tries, ⟨left, trail, same⟩, ?_⟩
  rw [← kept.seen_of_fixed fixed, kept.schedule_eq]
  refine ⟨rfl, rfl, ends, fun noOthers => ?_⟩
  rw [same]
  exact (trail.sleeps_eq noOthers).trans (congrArg (· ++ _) (Clock.sleeps_wait _ _))

omit [Service σ] in
/-- Work that does nothing, and ends as is foretold for each attempt. -/
def Work.ofOutcomes (outcomes : Nat → Outcome α) : Work σ κ α :=
  fun number t sys => ((outcomes number, t), sys)

/-- A program with one executor, and a service that knows one session and meets transactions
with `conflicts` as they begin. -/
def besieged (config : RetryConfig) (clock : Clock) (conflicts : List Failure) :
    System Fleet Unit :=
  let memory := { MemoryBackend.fresh none none false with created := 1, live := [⟨"session-1"⟩] }
  let backend : FaultyBackend := ⟨memory, conflicts.map fun e => (.begin, some e), 0⟩
  ⟨⟨clock, Fleet.ofBackends [backend], []⟩, [], [.idle config], ()⟩

/-- Conflicts of the work and of the service alike are slept off, with a hint and without. -/
theorem run_follows_schedule_of_conflicts :
    let config := { RetryConfig.standard with jitter := false }
    let clock := Clock.startingAt ⟨0, by decide⟩
    let sys := besieged config clock [.aborted "busy" none, .aborted "busy" none]
    let session := Session.existing ⟨"session-1"⟩ 0 .empty clock.now
    let work := Work.ofOutcomes fun number =>
      if number = 1 then .error (.aborted "busy" (some ⟨3, 0⟩)) else .ok ()
    let ended := runWithTimeout 0 0 session config.timeout work sys
    (sys.executors[0]? = some (.idle config) ∧ 0 ∉ (Executor.idle config).running ∧
      config.jitter = false) ∧
    ended.2.env.clock.sleeps = [.ofSeconds 3, .ofSeconds 4, .ofSeconds 8] ∧
    ∃ tries, Made 0 0 work session sys tries ended.2 ∧
      let plan := Retry.schedule config (config.timeout.map clock.now.after) 1
        (tries.map fun a => ⟨a.ending, a.stop.now, 0⟩)
      plan.attempts = tries.length ∧ plan.sleeps = tries.filterMap Try.pause := by
  intro config clock sys session work ended
  have found : sys.executors[0]? = some (.idle config) := rfl
  have free : 0 ∉ (Executor.idle config).running := List.not_mem_nil
  obtain ⟨tries, made, counts, sleeps, -⟩ :=
    run_follows_schedule session config.timeout work found free rfl
  exact ⟨⟨found, free, rfl⟩, by decide +kernel, tries, made, counts, sleeps⟩

end SessionPooling.Executor
