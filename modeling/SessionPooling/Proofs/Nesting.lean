import SessionPooling.Proofs.CallTree
import SessionPooling.Proofs.Trail

/-! Calls inside each other are guarded. Whatever their callbacks do and however they end, a call
is refused just if one on its executor is still active further up; a refused call does nothing at
all; and no call, however it ends, changes who is marked as running. -/
namespace SessionPooling
variable {σ κ α β γ : Type} {thread : Thread} {above : List Nat} {x : Nat}

/-- A thread is marked as running on just the executors of its active calls. -/
def Marked (thread : Thread) (above : List Nat) (marks : List (List Thread)) : Prop :=
  ∀ x, x ∈ above ↔ ∃ running, marks[x]? = some running ∧ thread ∈ running

namespace Marked
variable {marks : List (List Thread)}

theorem of_free (free : ∀ running ∈ marks, thread ∉ running) : Marked thread [] marks := by
  intro x
  constructor
  · exact fun member => (List.not_mem_nil member).elim
  · rintro ⟨running, found, member⟩
    exact (free running (List.mem_of_getElem? found) member).elim

theorem enter (marked : Marked thread above marks) (inside : x < marks.length) :
    Marked thread (x :: above) (marks.modify x (thread :: ·)) := by
  intro y
  rw [List.mem_cons, marked y]
  by_cases same : x = y
  · subst same
    have found := List.getElem?_eq_getElem inside
    simp [found]
  · simp [same, Ne.symm same]

end Marked

theorem System.marks_of_found {sys : System σ κ} {executor : Executor}
    (found : sys.executors[x]? = some executor) : sys.marks[x]? = some executor.running := by
  rw [System.marks, List.getElem?_map, found]
  rfl

/-- Changing each executor keeps the marks if it keeps those of each. -/
theorem System.marks_modify (executors : List Executor) (x : Nat) (change : Executor → Executor)
    (mark : List Thread → List Thread)
    (changes : ∀ executor, (change executor).running = mark executor.running) :
    (executors.modify x change).map (·.running) =
      (executors.map (·.running)).modify x mark := by
  apply List.ext_getElem?
  intro y
  simp only [List.getElem?_map, List.getElem?_modify, Option.map_eq_map, Option.map_map]
  congr 1
  funext executor
  by_cases same : x = y
  · simp [same, changes]
  · simp [same]

/-- Work of the library's own, which does not touch the marks or what the program keeps. -/
def Sys.Quiet (work : Sys σ κ β) : Prop :=
  ∀ sys, (work sys).2.marks = sys.marks ∧ (work sys).2.own = sys.own

namespace Sys.Quiet

theorem pure (b : β) : Quiet (Pure.pure b : Sys σ κ β) := fun _ => ⟨rfl, rfl⟩

theorem bind {work : Sys σ κ β} {next : β → Sys σ κ γ} (first : work.Quiet)
    (rest : ∀ b, (next b).Quiet) : Quiet (work >>= next) := by
  intro sys
  obtain ⟨marks, own⟩ := first sys
  obtain ⟨moreMarks, moreOwn⟩ := rest (work sys).1 (work sys).2
  exact ⟨moreMarks.trans marks, moreOwn.trans own⟩

theorem act (work : Act σ β) : Quiet (Sys.act work : Sys σ κ β) := fun _ => ⟨rfl, rfl⟩

theorem count (x : Nat) (change : ExecutorStats → ExecutorStats) :
    Quiet (Sys.count x change : Sys σ κ Unit) := by
  intro sys
  have marks := System.marks_modify sys.executors x
    (fun executor => { executor with stats := change executor.stats }) id fun _ => rfl
  rw [List.modify_id] at marks
  exact ⟨marks, rfl⟩

end Sys.Quiet

/-- What happens between two moments of the same depth: the marks are as they were, each call
that ended meanwhile is guarded, and the callback of the innermost active call ran to these
ends. -/
structure Steady [Service σ] (thread : Thread) (before after : System σ (Register σ κ α))
    (ends : List (Outcome α)) : Prop where
  marks : after.marks = before.marks
  calls : ∀ call ∈ after.own.calls, call ∈ before.own.calls ∨ call.Guarded thread
  ends : after.own.ends = before.own.ends ++ ends

namespace Steady
variable [Service σ] {before mid after : System σ (Register σ κ α)} {ends more : List (Outcome α)}

theorem of_same (marks : after.marks = before.marks) (own : after.own = before.own) :
    Steady thread before after [] := by
  refine ⟨marks, fun call member => .inl ?_, ?_⟩
  · rw [← own]
    exact member
  · rw [own, List.append_nil]

theorem trans (first : Steady thread before mid ends) (second : Steady thread mid after more) :
    Steady thread before after (ends ++ more) := by
  refine ⟨second.marks.trans first.marks, fun call member => ?_, ?_⟩
  · obtain earlier | guarded := second.calls call member
    · exact first.calls call earlier
    · exact .inr guarded
  · rw [second.ends, first.ends, List.append_assoc]

end Steady

/-- Work of a thread with just these calls active, begun while the outside is like this, goes on
steadily, and `Q` relates its result to how the outside is then and to how the runs of the innermost
callback ended meanwhile. -/
def Sys.Steadily [Service σ] (thread : Thread) (above : List Nat) (env : Env σ)
    (work : Sys σ (Register σ κ α) β) (Q : β → Env σ → List (Outcome α) → Prop) : Prop :=
  ∀ sys, sys.env = env → Marked thread above sys.marks →
    ∃ ends, Steady thread sys (work sys).2 ends ∧ Q (work sys).1 (work sys).2.env ends

namespace Sys.Steadily
variable [Service σ] {env : Env σ} {work : Sys σ (Register σ κ α) β}
  {next : β → Sys σ (Register σ κ α) γ} {P Q : β → Env σ → List (Outcome α) → Prop}
  {R : γ → Env σ → List (Outcome α) → Prop}

theorem ofQuiet (quiet : work.Quiet)
    (holds : ∀ sys, sys.env = env → Q (work sys).1 (work sys).2.env []) :
    work.Steadily thread above env Q := by
  intro sys there _
  obtain ⟨marks, own⟩ := quiet sys
  exact ⟨[], .of_same marks own, holds sys there⟩

theorem pure (b : β) (holds : Q b env []) :
    Steadily thread above env (Pure.pure b : Sys σ (Register σ κ α) β) Q := by
  refine ofQuiet (.pure b) fun sys there => ?_
  subst there
  exact holds

theorem bind (first : work.Steadily thread above env P)
    (rest : ∀ b env ends, P b env ends →
      (next b).Steadily thread above env fun c env more => R c env (ends ++ more)) :
    Steadily thread above env (work >>= next) R := by
  intro sys there marked
  obtain ⟨ends, steady, holds⟩ := first sys there marked
  have stillMarked : Marked thread above (work sys).2.marks := by
    rw [steady.marks]
    exact marked
  obtain ⟨more, steadyMore, holdsMore⟩ := rest _ _ ends holds _ rfl stillMarked
  exact ⟨ends ++ more, steady.trans steadyMore, holdsMore⟩

theorem mono (steadily : work.Steadily thread above env P)
    (weaker : ∀ b env ends, P b env ends → Q b env ends) :
    work.Steadily thread above env Q := by
  intro sys there marked
  obtain ⟨ends, steady, holds⟩ := steadily sys there marked
  exact ⟨ends, steady, weaker _ _ ends holds⟩

/-- Quiet work comes first. -/
theorem quietly (quiet : work.Quiet) (rest : ∀ b env, (next b).Steadily thread above env R) :
    Steadily thread above env (work >>= next) R := by
  refine bind (ofQuiet (Q := fun _ _ ends => ends = []) quiet fun _ _ => rfl) ?_
  rintro b env _ rfl
  exact rest b env

end Sys.Steadily

/-- A run of a callback takes down how it ended, and nothing else. -/
abbrev TakenDown (r : Outcome α × Transaction) (_ : Env σ) (ends : List (Outcome α)) : Prop :=
  ends = [r.1]

namespace Executor
variable [Service σ]

theorem delayUntilRetry_quiet (x : Nat) (config : RetryConfig) (conflict : Failure)
    (state : RetryState) :
    (delayUntilRetry x config conflict state : Sys σ κ AfterConflict).Quiet := by
  unfold delayUntilRetry
  refine .bind (.act Act.now) fun now => ?_
  split
  · refine .bind (.count x countGivenUp) fun _ => ?_
    exact .bind (.act _) fun _ => .pure _
  · refine .bind (.act _) fun drawn => ?_
    split
    · exact .pure _
    · split
      · refine .bind (.count x countGivenUp) fun _ => ?_
        exact .bind (.act _) fun _ => .pure _
      · refine .bind (.act _) fun _ => .bind (.count x countRetry) fun _ => ?_
        exact .bind (.act _) fun _ => .pure _

/-- How the verdict on an attempt may come to be the failure of a nested call. -/
def Verdict.Accounted (ends : List (Outcome α)) (returned : Session) (env : Env σ) :
    Verdict α → Prop
  | .failed e => e = .nestedTransaction → HandedOn ends returned env
  | .conflict e => e.isConflict
  | _ => True

/-- What the answer to the commit makes of an attempt. -/
def Verdict.ofReply (value : α) : Except Failure Instant → Verdict α
  | .ok _ => .done value
  | .error e => .ofFailure e

theorem settle_ok {t after : Transaction} {env final : Env σ} {reply : Except Failure Instant}
    (committed : t.commit env = ((reply, after), final)) (value : α) :
    settle t (.ok value) env = ((.ofReply value reply, after), final) := by
  simp only [settle, bind, StateT.bind, committed]
  cases reply with
  | ok time => rfl
  | error e => rfl

theorem settle_accounted (session : Session) (t : Transaction) (outcome : Outcome α)
    (env : Env σ) :
    let settled := settle t outcome env
    settled.1.1.Accounted [outcome] { session with transaction := some settled.1.2 } settled.2 := by
  cases outcome with
  | panic => trivial
  | error e =>
    by_cases conflict : e.isConflict
    · simp only [settle, if_pos conflict]
      exact conflict
    · simp only [settle, if_neg conflict]
      rintro rfl
      exact .inl rfl
  | ok value =>
    rcases committed : t.commit env with ⟨⟨reply, after⟩, final⟩
    rw [settle_ok committed]
    cases reply with
    | ok time => trivial
    | error e =>
      by_cases conflict : e.isConflict
      · simp only [Verdict.ofReply, Verdict.ofFailure, if_pos conflict]
        exact conflict
      · simp only [Verdict.ofReply, Verdict.ofFailure, if_neg conflict]
        rintro rfl
        exact .inr ⟨⟨value, rfl⟩, t, after, env, committed, rfl⟩

/-- What a run may end in, by how its callback ended in its attempts. -/
def Accounts (r : Outcome α × Session) (env : Env σ) (ends : List (Outcome α)) : Prop :=
  r.1 = .error .nestedTransaction → HandedOn ends r.2 env

variable {work : Work σ (Register σ κ α) α} {env : Env σ}

theorem attempt_steadily (session : Session)
    {work : Transaction → Sys σ (Register σ κ α) (Outcome α × Transaction)}
    (runs : ∀ t env, (work t).Steadily thread above env TakenDown) :
    (attempt session work).Steadily thread above env fun r env ends =>
      r.1.Accounted ends r.2 env := by
  unfold attempt
  split
  next e refused =>
    refine .pure _ ?_
    rintro rfl
    cases created : session.creation with
    | none => simp [Session.newTransaction, created] at refused
    | some creation => simp [Session.newTransaction, created] at refused
  next session' _ =>
    split
    · exact .pure _ trivial
    next t _ =>
      refine .bind (runs t env) ?_
      rintro ⟨outcome, t⟩ env _ rfl
      refine .bind (P := fun r env more => more = [] ∧
        r.1.Accounted [outcome] { session' with transaction := some r.2 } env)
        (.ofQuiet (.act _) fun sys _ => ⟨rfl, settle_accounted session' t outcome sys.env⟩) ?_
      rintro ⟨verdict, t⟩ env _ ⟨rfl, accounted⟩
      exact .pure _ accounted

/-- Each conflict leaves it to the attempts that follow to account for how the run ends. -/
theorem attempts_steadily (x : Nat) (config : RetryConfig)
    (runs : ∀ number t env, (work number t).Steadily thread above env TakenDown)
    (remaining : Nat) :
    ∀ (state : RetryState) (session : Session) (env : Env σ),
      (attempts x config work remaining state session).Steadily thread above env Accounts := by
  induction remaining with
  | zero => exact fun _ _ _ => .pure _ nofun
  | succ remaining ih =>
    intro state session env
    refine .quietly (.count x countAttempt) fun _ env => ?_
    refine .bind (attempt_steadily session (runs _)) ?_
    rintro ⟨verdict, session⟩ env ends accounted
    cases verdict with
    | done value =>
      refine .quietly (.act _) fun session env => ?_
      exact .pure _ nofun
    | failed e =>
      refine .pure _ fun failed => ?_
      cases failed
      rw [List.append_nil]
      exact accounted rfl
    | panicked => exact .pure _ nofun
    | conflict e =>
      refine .quietly (delayUntilRetry_quiet x config e _) fun after env => ?_
      cases after with
      | giveUp =>
        refine .pure _ fun failed => ?_
        cases failed
        exact absurd accounted nofun
      | panic => exact .pure _ nofun
      | retry state =>
        exact (ih state session env).mono fun _ _ _ later failed => (later failed).prepend ends

/-- A call on an executor that is busy further up ends at once. -/
theorem runWithTimeout_refused (session : Session) (timeout : Option Duration)
    {sys : System σ (Register σ κ α)} (marked : Marked thread above sys.marks)
    (busy : x ∈ above) :
    runWithTimeout x thread session timeout work sys =
      ((.error .nestedTransaction, session), sys) := by
  obtain ⟨running, found, member⟩ := (marked x).1 busy
  rw [System.marks, List.getElem?_map] at found
  obtain ⟨executor, foundExecutor, rfl⟩ := Option.map_eq_some_iff.1 found
  simp only [runWithTimeout, foundExecutor, if_pos member]

/-- Work between marking the thread and taking the mark back, wherever it ends. -/
theorem marked_steady {tries : Sys σ (Register σ κ α) β}
    {Q : β → Env σ → List (Outcome α) → Prop} {sys : System σ (Register σ κ α)}
    (steadily : tries.Steadily thread (x :: above) sys.env Q)
    (marked : Marked thread above sys.marks) (inside : x < sys.marks.length) :
    let tried := tries (enter x thread sys).2
    let left := (leave x thread tried.2).2
    ∃ ends, Steady thread sys left ends ∧ Q tried.1 left.env ends := by
  intro tried left
  have enters : (enter x thread sys).2.marks = sys.marks.modify x (thread :: ·) :=
    System.marks_modify sys.executors x _ _ fun _ => rfl
  have leaves : left.marks = tried.2.marks.modify x (·.erase thread) :=
    System.marks_modify tried.2.executors x _ _ fun _ => rfl
  have markedInside : Marked thread (x :: above) (enter x thread sys).2.marks := by
    rw [enters]
    exact marked.enter inside
  obtain ⟨ends, steady, holds⟩ := steadily (enter x thread sys).2 rfl markedInside
  refine ⟨ends, ⟨?_, steady.calls, steady.ends⟩, holds⟩
  rw [leaves, steady.marks, enters, List.modify_modify_eq]
  have undone : (fun running : List Thread => running.erase thread) ∘ (thread :: ·) = id := by
    funext running
    exact List.erase_cons_head thread running
  rw [undone, List.modify_id]

/-- However a run ends, it gives back the marks as they were. -/
theorem runWithTimeout_steady (session : Session) (timeout : Option Duration)
    {sys : System σ (Register σ κ α)} (marked : Marked thread above sys.marks)
    (free : x ∉ above)
    (runs : ∀ number t env, (work number t).Steadily thread (x :: above) env TakenDown) :
    let ended := runWithTimeout x thread session timeout work sys
    ∃ ends, Steady thread sys ended.2 ends ∧ Accounts ended.1 ended.2.env ends := by
  intro ended
  cases found : sys.executors[x]? with
  | none =>
    have nothing : ended = ((.panic, session), sys) := by
      simp only [ended, runWithTimeout, found]
    rw [nothing]
    exact ⟨[], .of_same rfl rfl, fun failed => by cases failed⟩
  | some executor =>
    have foundMarks := System.marks_of_found found
    have notRunning : thread ∉ executor.running := fun running =>
      free ((marked x).2 ⟨_, foundMarks, running⟩)
    have steadily : Sys.Steadily thread (x :: above) sys.env
        (do
          Sys.count x countInvocation
          let now ← Sys.act Act.now
          attempts x executor.config work attemptLimit (.entered now timeout) session)
        Accounts :=
      .quietly (.count x countInvocation) fun _ _ => .quietly (.act _) fun now env =>
        attempts_steadily x executor.config runs attemptLimit _ session env
    obtain ⟨inside, -⟩ := List.getElem?_eq_some_iff.1 foundMarks
    simp only [ended, runWithTimeout, found, if_neg notRunning]
    exact marked_steady steadily marked inside

/-- The call that a run is, when nothing was taken down of its callback before. -/
theorem runWithTimeout_guarded (session : Session) (timeout : Option Duration)
    (sys : System σ (Register σ κ α)) (marked : Marked thread above sys.marks)
    (unused : sys.own.ends = [])
    (runs : ∀ number t env, (work number t).Steadily thread (x :: above) env TakenDown) :
    let ended := runWithTimeout x thread session timeout work sys
    let call : Call σ κ α :=
      ⟨x, above, session, sys.seen, ended.2.own.ends, ended.1.1, ended.1.2, ended.2.seen⟩
    call.Guarded thread ∧ ended.2.marks = sys.marks ∧
      ∀ call ∈ ended.2.own.calls, call ∈ sys.own.calls ∨ call.Guarded thread := by
  intro ended call
  by_cases busy : x ∈ above
  · have refused : ended = ((.error .nestedTransaction, session), sys) :=
      runWithTimeout_refused session timeout marked busy
    have nothing : call =
        ⟨x, above, session, sys.seen, [], .error .nestedTransaction, session, sys.seen⟩ := by
      simp only [call, refused, unused]
    rw [nothing, refused]
    refine ⟨?_, rfl, fun _ member => .inl member⟩
    exact ⟨iff_of_true busy ⟨rfl, rfl⟩, fun _ => ⟨rfl, rfl⟩, fun free => absurd busy free, rfl,
      fun free => absurd busy free⟩
  · obtain ⟨ends, steady, accounts⟩ := runWithTimeout_steady session timeout marked busy runs
    have sameEnds : call.ends = ends := by
      have grown := steady.ends
      rw [unused, List.nil_append] at grown
      exact grown
    have handedOn (failed : call.outcome = .error .nestedTransaction) :
        HandedOn call.ends call.returned call.after.env := by
      rw [sameEnds]
      exact accounts failed
    refine ⟨⟨iff_of_false busy ?_, fun busy' => absurd busy' busy, fun _ => handedOn, steady.marks,
      fun _ executor found running => ?_⟩, steady.marks, steady.calls⟩
    · rintro ⟨failed, none⟩
      exact (handedOn failed).ne_nil none
    · have foundMarks : call.after.marks[x]? = some executor.running :=
        System.marks_of_found found
      have same : call.after.marks = sys.marks := steady.marks
      rw [same] at foundMarks
      exact busy ((marked x).2 ⟨_, foundMarks, running⟩)

end Executor

namespace Nest
variable [Service σ]

theorem place_steadily (session : Session) (limit : Option (Option Duration))
    {work : Executor.Work σ (Register σ κ α) α}
    (runs : ∀ number t env, (work number t).Steadily thread (x :: above) env TakenDown) :
    (place x thread above session limit work).Steadily thread above env
      fun _ _ ends => ends = [] := by
  intro sys _ marked
  obtain ⟨timeout, same⟩ := Executor.invoke_eq x thread session limit work
    { sys with own := { sys.own with ends := [] } }
  obtain ⟨guarded, marks, calls⟩ := Executor.runWithTimeout_guarded session timeout
    { sys with own := { sys.own with ends := [] } } marked rfl runs
  simp only [place, same]
  refine ⟨[], ⟨marks, fun call member => ?_, (List.append_nil _).symm⟩, rfl⟩
  obtain earlier | last := List.mem_append.1 member
  · exact calls call earlier
  · obtain rfl := List.mem_singleton.1 last
    exact .inr guarded

/-- By induction over what the thread does; the callback of a call is one call deeper, and what
is taken down of it is kept apart from what was taken down of the callback around the call. -/
theorem perform_steadily (nest : Nest σ κ α) :
    ∀ (above : List Nat) (t : Transaction) (env : Env σ),
      (nest.perform thread above t).Steadily thread above env fun _ _ ends => ends = [] := by
  induction nest with
  | finish outcome => exact fun _ _ _ => .pure _ rfl
  | work act keeps next ih =>
    intro above t env
    refine .bind (P := fun _ _ ends => ends = []) ?_ ?_
    · intro sys _ _
      refine ⟨[], ⟨keeps t sys.seen, fun call member => .inl member, ?_⟩, rfl⟩
      exact (List.append_nil _).symm
    · rintro ⟨t, own⟩ env _ rfl
      exact ih own above t env
  | call x limit session callback next ihCallback ihNext =>
    intro above t env
    refine .bind (place_steadily session limit fun number t env => ?_) ?_
    · refine .bind (ihCallback number (x :: above) t env) ?_
      rintro ⟨outcome, t⟩ env _ rfl
      refine .bind (P := fun _ _ ends => ends = [outcome]) ?_ ?_
      · exact fun sys _ _ => ⟨[outcome], ⟨rfl, fun call member => .inl member, rfl⟩, rfl⟩
      · rintro _ env _ rfl
        exact .pure _ rfl
    · rintro ⟨outcome, returned⟩ env _ rfl
      exact ihNext outcome returned above t env

/-- Whatever a thread does that is in no call yet, each call that it makes, at whatever depth, is
refused just if one on its executor is still active further up, and then does nothing; and in the
end the thread is in no call again. -/
theorem perform_guards_calls (nest : Nest σ κ α) (t : Transaction)
    (sys : System σ (Register σ κ α))
    (idle : ∀ executor ∈ sys.executors, thread ∉ executor.running) :
    let ended := (nest.perform thread [] t sys).2
    (∀ call ∈ ended.own.calls, call ∈ sys.own.calls ∨ call.Guarded thread) ∧
      ∀ executor ∈ ended.executors, thread ∉ executor.running := by
  intro ended
  have free : ∀ running ∈ sys.marks, thread ∉ running := List.forall_mem_map.2 idle
  obtain ⟨ends, steady, -⟩ := nest.perform_steadily [] t sys.env sys rfl (.of_free free)
  refine ⟨steady.calls, fun executor member => ?_⟩
  apply free
  rw [← steady.marks]
  exact List.mem_map_of_mem member

/-- Two executors, and a service with a session. -/
def unmarked : System Fleet (Register Fleet Unit Unit) :=
  let sys := Executor.besieged .standard (.startingAt .earliest) []
  { sys with executors := [.idle .standard, .idle .standard] }.register ⟨(), [], []⟩

theorem unmarked_idle : ∀ executor ∈ unmarked.executors, 0 ∉ executor.running := by decide

/-- A call, in its callback one on the other executor that panics, and in both callbacks a call on
its own executor. It hands on that the last of these is refused, and is made once more. -/
def entangled : Nest Fleet Unit Unit :=
  let session := Session.existing ⟨"session-1"⟩ 0 .empty .earliest
  let plain (next : Outcome Unit → Nest Fleet Unit Unit) : Nest Fleet Unit Unit :=
    .call 0 none session (fun _ => .finish (.ok ())) fun outcome _ => next outcome
  let other : Nat → Nest Fleet Unit Unit := fun _ => plain fun _ => .finish .panic
  .call 0 (some none) session
    (fun _ => .call 1 none session other fun _ _ => plain .finish)
    fun _ _ => plain .finish

theorem entangled_calls :
    ((entangled.perform 0 [] (.fresh ⟨"session-1"⟩ 0) unmarked).2.own.calls.map fun call =>
        (call.executor, call.above, call.failure?)) =
      [(0, [1, 0], some .nestedTransaction), (1, [0], none), (0, [0], some .nestedTransaction),
        (0, [], some .nestedTransaction), (0, [], none)] := by
  decide +kernel

/-- Both executors are free again after calls that were refused, panicked, failed and succeeded. -/
theorem perform_guards_calls_of_entangled :
    (∀ executor ∈ unmarked.executors, 0 ∉ executor.running) ∧
    let ended := (entangled.perform 0 [] (.fresh ⟨"session-1"⟩ 0) unmarked).2
    ended.own.calls.length = 5 ∧ (∀ call ∈ ended.own.calls, call.Guarded 0) ∧
      ∀ executor ∈ ended.executors, 0 ∉ executor.running := by
  obtain ⟨guarded, free⟩ :=
    perform_guards_calls entangled (.fresh ⟨"session-1"⟩ 0) unmarked unmarked_idle
  refine ⟨unmarked_idle, by decide +kernel, fun call member => ?_, free⟩
  exact (guarded call member).resolve_left List.not_mem_nil

/-- A call fails as nested in no other call if its callback hands on that a call was refused. -/
theorem entangled_hands_on :
    (∀ executor ∈ unmarked.executors, 0 ∉ executor.running) ∧
    ∃ call ∈ (entangled.perform 0 [] (.fresh ⟨"session-1"⟩ 0) unmarked).2.own.calls,
      ¬(call.outcome = .error .nestedTransaction ↔ call.executor ∈ call.above) := by
  have handedOn : (0, [], some .nestedTransaction) ∈
      (entangled.perform 0 [] (.fresh ⟨"session-1"⟩ 0) unmarked).2.own.calls.map fun call =>
        (call.executor, call.above, call.failure?) := by
    rw [entangled_calls]
    simp
  obtain ⟨call, member, same⟩ := List.mem_map.1 handedOn
  obtain ⟨-, above, failed⟩ : call.executor = 0 ∧ call.above = [] ∧
      call.failure? = some .nestedTransaction := by
    simpa only [Prod.mk.injEq] using same
  refine ⟨unmarked_idle, call, member, fun nested => ?_⟩
  have busy := nested.1 (call.outcome_of_failure? failed)
  rw [above] at busy
  exact List.not_mem_nil busy

end Nest

end SessionPooling
