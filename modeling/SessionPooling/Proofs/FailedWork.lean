import Mathlib.Data.List.Basic
import SessionPooling.Proofs.Tallies
import SessionPooling.Proofs.TransactionProtocol

/-! Runs whose work fails for good. Each run of a callback is written down as it was seen from the
outside, so that it can be said what comes after it: after a failure that is no conflict, nothing
but what it takes to give up the transaction. -/
namespace SessionPooling
variable {σ κ α : Type}

/-- What becomes of a transaction that is given up, and what is asked for it. -/
structure Transaction.GivenUp (t : Transaction) (asked : List Exchange) (after : Transaction) :
    Prop where
  once : ∀ id, t.id? = some id → t.isFinished = false →
    ∃ reply, asked = [⟨t.backend, .rollback t.session id, reply⟩]
  silent : t.id? = none ∨ t.isFinished → asked = []
  finished : after.isFinished
  committed : t.committed?.isSome → after = t
  rolledBack : t.committed? = none → after.isRolledBack

def NoRollback (heard : List Exchange) : Prop :=
  ∀ exchange ∈ heard, exchange.request.kind ≠ .rollback

def Outcome.failure? : Outcome α → Option Failure
  | .error e => some e
  | _ => none

theorem Outcome.eq_of_failure? {outcome : Outcome α} {e : Failure}
    (failed : outcome.failure? = some e) : outcome = .error e := by
  cases outcome with
  | error _ => exact congrArg _ (Option.some.inj failed)
  | _ => cases failed

/-- A run of a callback. -/
structure Turn (σ κ α : Type) where
  number : Nat
  given : Transaction
  before : System σ κ
  outcome : Outcome α
  left : Transaction
  after : System σ κ

/-- What a program keeps for itself, and the runs of a callback, oldest first. -/
structure Turns (σ κ α : Type) where
  own : κ
  turns : List (Turn σ κ α)

namespace Executor

/-- A callback of which every run is written down. -/
def Work.listed (work : Work σ κ α) : Work σ (Turns σ κ α) α := fun number given sys =>
  let before := sys.keeping sys.own.own
  let ((outcome, left), after) := work number given before
  let turn : Turn σ κ α := ⟨number, given, before, outcome, left, after⟩
  ((outcome, left), after.keeping ⟨after.own, sys.own.turns ++ [turn]⟩)

end Executor

section
variable [Service σ]

/-- A run of a callback that fails for good, by itself or in the commit that follows it. -/
inductive Turn.FailsWith (turn : Turn σ κ α) (e : Failure) : Prop where
  | callback (ended : turn.outcome = .error e) (noConflict : e.isConflict = false)
  | commit {value} (ended : turn.outcome = .ok value)
      (refused : (turn.left.commit turn.after.env).1.1 = .error e)
      (noConflict : e.isConflict = false)

/-- A call that ends with a run of its callback: there is no further one, and neither an attempt
nor a sleep, and the failure is the result. -/
structure Turn.Ends (turn : Turn σ κ α) (e : Failure) (later : List (Turn σ κ α))
    (outcome : Outcome α) (final : System σ (Turns σ κ α)) : Prop where
  last : later = []
  handedOn : outcome = .error e
  clock : final.env.clock = turn.after.env.clock
  stats : final.executors.map (·.stats) = turn.after.executors.map (·.stats)
  pools : final.pools = turn.after.pools
  own : final.own.own = turn.after.own

end

namespace Executor
variable [Service σ]

/-- The service is asked just if it knows the transaction, and may answer what it likes. -/
theorem rollback_givenUp {t : Transaction} (unfinished : ¬ t.isFinished) :
    (t.rollback (σ := Recorder σ)).Hears fun r asked => t.GivenUp asked r.2 := by
  obtain ⟨session, backend, stage, mutations⟩ := t
  cases stage with
  | committed id time => exact absurd rfl unfinished
  | rolledBack id => exact absurd rfl unfinished
  | pending => exact .pure ⟨nofun, fun _ => rfl, rfl, nofun, fun _ => rfl⟩
  | begun id =>
    refine .asking fun reply => .pure ⟨?_, ?_, rfl, nofun, fun _ => rfl⟩
    · rintro _ ⟨⟩ -
      exact ⟨reply, rfl⟩
    · rintro (unknown | finished)
      · cases unknown
      · cases finished

/-- Only what has begun and is not finished is rolled back at the service. -/
theorem abandon_givenUp (t : Transaction) (cause : Failure) :
    (abandon (σ := Recorder σ) t cause).Hears fun after asked => t.GivenUp asked after := by
  unfold abandon
  split
  next finished =>
    refine .pure ⟨fun id _ open_ => ?_, fun _ => rfl, finished, fun _ => rfl, fun none => ?_⟩
    · exact absurd finished (ne_true_of_eq_false open_)
    · simpa [none] using t.isFinished_iff.1 finished
  next unfinished =>
    refine .bind (rollback_givenUp unfinished) ?_
    rintro ⟨reply, after⟩ asked givenUp
    cases reply with
    | ok _ => exact .pure givenUp
    | error e => exact .silently (fun _ => rfl) fun _ => .pure givenUp

theorem settle_error {e : Failure} (noConflict : e.isConflict = false) (t : Transaction)
    (env : Env σ) :
    settle t (.error e : Outcome α) env =
      ((.failed e, (abandon t e env).1), (abandon t e env).2) := by
  unfold settle
  dsimp only
  rw [if_neg (ne_true_of_eq_false noConflict)]
  rfl

/-- What a run of a callback that fails for good is taken for. -/
theorem settle_failed {turn : Turn σ κ α} {e : Failure} (fails : turn.FailsWith e) :
    (settle turn.left turn.outcome turn.after.env).1.1 = .failed e := by
  cases fails with
  | callback ended noConflict => rw [ended, settle_error noConflict]
  | @commit value ended refused noConflict =>
    rcases committed : turn.left.commit turn.after.env with ⟨⟨reply, after⟩, env⟩
    rw [committed] at refused
    obtain rfl : reply = .error e := refused
    rw [ended, settle_ok committed]
    exact if_neg (ne_true_of_eq_false noConflict)

theorem requestCommit_noRollback (t : Transaction) (id : TransactionId) :
    (t.requestCommit (σ := Recorder σ) id).Hears fun _ asked => NoRollback asked := by
  refine .asking fun reply => ?_
  have only : NoRollback [⟨t.backend, .commit t.session id t.mutations, reply⟩] :=
    List.forall_mem_singleton.2 nofun
  cases reply with
  | error e => exact .pure only
  | ok time => exact .pure only

theorem requestBegin_noRollback (t : Transaction) :
    (t.requestBegin (σ := Recorder σ)).Hears fun _ asked => NoRollback asked := by
  refine .asking fun reply => ?_
  have only : NoRollback [⟨t.backend, .begin t.session, reply⟩] :=
    List.forall_mem_singleton.2 nofun
  cases reply with
  | error e => exact .pure only
  | ok id => exact .pure only

theorem commit_noRollback (t : Transaction) :
    (t.commit (σ := Recorder σ)).Hears fun _ asked => NoRollback asked := by
  obtain ⟨session, backend, stage, mutations⟩ := t
  cases stage with
  | committed id time => exact .pure (List.forall_mem_nil _)
  | rolledBack id => exact .pure (List.forall_mem_nil _)
  | begun id => exact requestCommit_noRollback _ id
  | pending =>
    refine .bind (requestBegin_noRollback _) ?_
    rintro ⟨reply, t⟩ asked none
    cases reply with
    | error e => exact .pure none
    | ok id =>
      exact .mono (requestCommit_noRollback t id) fun _ more others =>
        List.forall_mem_append.2 ⟨none, others⟩

/-- The run of a callback ends a call: what is left of the transaction, and of its surroundings,
is what settling it leaves. -/
structure Concludes (turn : Turn σ κ α) (e : Failure) (later : List (Turn σ κ α))
    (outcome : Outcome α) (returned : Session) (final : System σ (Turns σ κ α)) : Prop where
  ends : turn.Ends e later outcome final
  transaction : returned.transaction =
    some (settle turn.left turn.outcome turn.after.env).1.2
  env : final.env = (settle turn.left turn.outcome turn.after.env).2

/-- Each run of a callback that fails for good ends the call. -/
def FailsAtLast (turns : List (Turn σ κ α))
    (ended : (Outcome α × Session) × System σ (Turns σ κ α)) : Prop :=
  ∀ earlier turn later e, turns = earlier ++ turn :: later → turn.FailsWith e →
    Concludes turn e later ended.1.1 ended.1.2 ended.2

theorem FailsAtLast.nil {ended : (Outcome α × Session) × System σ (Turns σ κ α)} :
    FailsAtLast [] ended := by
  rintro earlier turn later e split
  exact absurd split (by simp)

theorem FailsAtLast.cons {turn : Turn σ κ α} {turns : List (Turn σ κ α)}
    {ended : (Outcome α × Session) × System σ (Turns σ κ α)}
    (first : ∀ e, turn.FailsWith e → Concludes turn e turns ended.1.1 ended.1.2 ended.2)
    (others : FailsAtLast turns ended) : FailsAtLast (turn :: turns) ended := by
  intro earlier turn' later e split fails
  rcases List.cons_eq_append_iff.1 split with ⟨rfl, same⟩ | ⟨rest, -, more⟩
  · cases same
    exact first e fails
  · exact others rest turn' later e more fails

/-- An attempt whose callback is written down: it comes to what settling its transaction does. -/
theorem attempt_listed {session : Session} {creation : Creation}
    (born : session.creation = some creation) (work : Work σ κ α) (number : Nat)
    (sys : System σ (Turns σ κ α)) : ∃ turn : Turn σ κ α,
      let settled := settle turn.left turn.outcome turn.after.env
      let listing := turn.after.keeping ⟨turn.after.own, sys.own.turns ++ [turn]⟩
      attempt session (work.listed number) sys =
        ((settled.1.1, { session with transaction := some settled.1.2 }),
          { listing with env := settled.2 }) := by
  let given := Transaction.fresh creation.id session.backend
  let before := sys.keeping sys.own.own
  rcases worked : work number given before with ⟨⟨outcome, left⟩, mid⟩
  let turn : Turn σ κ α := ⟨number, given, before, outcome, left, mid⟩
  have listed : work.listed number given sys =
      ((outcome, left), mid.keeping ⟨mid.own, sys.own.turns ++ [turn]⟩) := by
    have worked : work number given (sys.keeping sys.own.own) = ((outcome, left), mid) := worked
    simp only [Work.listed, worked]
    rfl
  exact ⟨turn, attempt_eq born listed⟩

/-- A run of a callback that is settled as a failure ends the call. -/
theorem concludes_of_failed {turn : Turn σ κ α} {e : Failure} {t : Transaction} {env : Env σ}
    (settled : settle turn.left turn.outcome turn.after.env = ((.failed e, t), env))
    (session : Session) (turns : List (Turn σ κ α)) :
    Concludes turn e [] (.error e : Outcome α) { session with transaction := some t }
      { turn.after.keeping ⟨turn.after.own, turns⟩ with env } := by
  have timeless := settle_clock turn.left turn.outcome turn.after.env
  rw [settled] at timeless
  refine ⟨⟨rfl, rfl, timeless, rfl, rfl, rfl⟩, ?_, ?_⟩
  · exact congrArg (fun r => some r.1.2) settled.symm
  · exact congrArg Prod.snd settled.symm

/-- Whatever number of attempts a run has left, and however its callback ends in each: the
induction is on that number. -/
theorem attempts_failAtLast (x : Nat) (config : RetryConfig) (work : Work σ κ α) (remaining : Nat) :
    ∀ (state : RetryState) (session : Session) (sys : System σ (Turns σ κ α)), ∃ turns,
      let ended := attempts x config work.listed remaining state session sys
      ended.2.own.turns = sys.own.turns ++ turns ∧ FailsAtLast turns ended := by
  induction remaining with
  | zero => exact fun state session sys => ⟨[], (List.append_nil _).symm, .nil⟩
  | succ remaining ih =>
    intro state session sys
    let begun := (Sys.count x countAttempt sys).2
    have counted : Sys.count x countAttempt sys = ((), begun) := rfl
    unfold attempts
    simp only [bind, StateT.bind, counted]
    cases born : session.creation with
    | none =>
      rw [attempt_of_unborn born]
      exact ⟨[], (List.append_nil _).symm, .nil⟩
    | some creation =>
      obtain ⟨turn, made⟩ := attempt_listed born work (state.attempt + 1) begun
      rcases settled : settle turn.left turn.outcome turn.after.env with ⟨⟨verdict, t⟩, env⟩
      simp only [settled] at made
      have failed (e : Failure) (fails : turn.FailsWith e) : verdict = .failed e := by
        have same := settle_failed fails
        rw [settled] at same
        exact same
      rw [made]
      cases verdict with
      | done value =>
        refine ⟨[turn], rfl, .cons (fun e fails => ?_) .nil⟩
        cases failed e fails
      | panicked =>
        refine ⟨[turn], rfl, .cons (fun e fails => ?_) .nil⟩
        cases failed e fails
      | failed e =>
        refine ⟨[turn], rfl, .cons (fun e' fails => ?_) .nil⟩
        cases failed e' fails
        exact concludes_of_failed settled session _
      | conflict e =>
        have another (e' : Failure) : ¬ turn.FailsWith e' := by
          intro fails
          cases failed e' fails
        let counting : RetryState := { state with attempt := state.attempt + 1 }
        let stopped : System σ (Turns σ κ α) :=
          { turn.after.keeping ⟨turn.after.own, sys.own.turns ++ [turn]⟩ with env }
        have quiet := (delayUntilRetry_quiet x config e counting stopped).2
        rcases delayed : delayUntilRetry x config e counting stopped with ⟨next, resumed⟩
        rw [delayed] at quiet
        have kept : resumed.own.turns = sys.own.turns ++ [turn] := congrArg Turns.turns quiet
        have delayed : delayUntilRetry x config e { state with attempt := state.attempt + 1 }
            { turn.after.keeping ⟨turn.after.own, begun.own.turns ++ [turn]⟩ with env } =
              (next, resumed) := delayed
        simp only [StateT.bind, delayed]
        cases next with
        | giveUp => exact ⟨[turn], kept, .cons (fun e' fails => (another e' fails).elim) .nil⟩
        | panic => exact ⟨[turn], kept, .cons (fun e' fails => (another e' fails).elim) .nil⟩
        | retry resting =>
          obtain ⟨turns, listing, others⟩ :=
            ih resting { session with transaction := some t } resumed
          rw [kept, List.append_assoc] at listing
          exact ⟨turn :: turns, listing, .cons (fun e' fails => (another e' fails).elim) others⟩

omit [Service σ] in
theorem leave_stats (x : Nat) (thread : Thread) (sys : System σ κ) :
    (leave x thread sys).2.executors.map (·.stats) = sys.executors.map (·.stats) := by
  apply List.ext_getElem?
  intro y
  simp only [leave, List.getElem?_map, List.getElem?_modify]
  by_cases same : x = y
  · simp [same, Function.comp_def]
  · simp [same]

theorem FailsAtLast.leaving {turns : List (Turn σ κ α)} {r : Outcome α × Session}
    {final : System σ (Turns σ κ α)} (fails : FailsAtLast turns (r, final)) (x : Nat)
    (thread : Thread) : FailsAtLast turns (r, (leave x thread final).2) := by
  intro earlier turn later e split failed
  obtain ⟨ends, transaction, env⟩ := fails earlier turn later e split failed
  have stats := (leave_stats x thread final).trans ends.stats
  exact ⟨{ ends with stats }, transaction, env⟩

theorem runWithTimeout_failsAtLast (x : Nat) (thread : Thread) (session : Session)
    (timeout : Option Duration) (work : Work σ κ α) (sys : System σ (Turns σ κ α)) :
    let ended := runWithTimeout x thread session timeout work.listed sys
    ∃ turns, ended.2.own.turns = sys.own.turns ++ turns ∧ FailsAtLast turns ended := by
  intro ended
  have refused (r : Outcome α × Session) (same : ended = (r, sys)) :
      ∃ turns, ended.2.own.turns = sys.own.turns ++ turns ∧ FailsAtLast turns ended := by
    rw [same]
    exact ⟨[], (List.append_nil _).symm, .nil⟩
  cases found : sys.executors[x]? with
  | none => exact refused (.panic, session) (by simp only [ended, runWithTimeout, found])
  | some executor =>
    by_cases busy : thread ∈ executor.running
    · refine refused (.error .nestedTransaction, session) ?_
      simp only [ended, runWithTimeout, found, if_pos busy]
    · obtain ⟨turns, listing, fails⟩ := attempts_failAtLast x executor.config work attemptLimit
        (.entered sys.env.clock.now timeout) session (entered x thread sys)
      have same : ended =
          let run := attempts x executor.config work.listed attemptLimit
            (.entered sys.env.clock.now timeout) session (entered x thread sys)
          (run.1, (leave x thread run.2).2) := by
        simp only [ended, runWithTimeout, found, if_neg busy]
        rfl
      rw [same]
      exact ⟨turns, listing, fails.leaving x thread⟩

/-- A callback that fails for good in one of its runs, in a call of any kind: that run is the last,
the failure is the result, and whatever it comes to, the transaction is rolled back at the service
if it has begun and is not finished, once, and nothing else happens. The session is left with a
transaction that is finished, and that is committed just if the callback committed it. When it is
the commit that fails for good, that is the last that happens, and nothing is rolled back. A call
on a session of a pool is such a call on the session that it takes. -/
theorem invoke_ends_with_failure (x : Nat) (thread : Thread) (work : Work (Recorder σ) κ α) :
    (∀ session limit sys,
      let ended := invoke x thread session limit work.listed sys
      ∃ turns, ended.2.own.turns = sys.own.turns ++ turns ∧
        ∀ earlier turn later e, turns = earlier ++ turn :: later → e.isConflict = false →
          (turn.outcome = .error e →
            turn.Ends e later ended.1.1 ended.2 ∧
              ∃ asked t, ended.2.env.service.heard = turn.after.env.service.heard ++ asked ∧
                ended.1.2.transaction = some t ∧ turn.left.GivenUp asked t) ∧
          ((∃ value, turn.outcome = .ok value) →
            (turn.left.commit turn.after.env).1.1 = .error e →
            turn.Ends e later ended.1.1 ended.2 ∧
              ended.2.env = (turn.left.commit turn.after.env).2 ∧
              ∃ asked, ended.2.env.service.heard = turn.after.env.service.heard ++ asked ∧
                NoRollback asked)) ∧
    ∀ pool session sys taken, Sys.onPool pool (·.get none) sys = (.ok session, taken) →
      let ended := invoke x thread session none work.listed taken
      runPooled x thread pool work.listed sys =
        (ended.1.1, (Checkout.giveBack pool ended.1.2 ended.2).2) := by
  refine ⟨fun session limit sys => ?_, fun pool session sys taken got => ?_⟩
  · obtain ⟨timeout, same⟩ := invoke_eq x thread session limit work.listed sys
    rw [same]
    obtain ⟨turns, listing, fails⟩ :=
      runWithTimeout_failsAtLast x thread session timeout work sys
    refine ⟨turns, listing, fun earlier turn later e split noConflict => ⟨?_, ?_⟩⟩
    · intro ended
      obtain ⟨ends, transaction, env⟩ :=
        fails earlier turn later e split (.callback ended noConflict)
      rw [ended, settle_error noConflict] at transaction env
      obtain ⟨asked, grown, givenUp⟩ := abandon_givenUp turn.left e turn.after.env
      rw [← env] at grown
      exact ⟨ends, asked, _, grown, transaction, givenUp⟩
    · rintro ⟨value, ended⟩ refused
      obtain ⟨ends, -, env⟩ :=
        fails earlier turn later e split (.commit ended refused noConflict)
      have settled : (settle turn.left turn.outcome turn.after.env).2 =
          (turn.left.commit turn.after.env).2 := by
        rcases committed : turn.left.commit turn.after.env with ⟨⟨reply, after⟩, env⟩
        rw [ended, settle_ok committed]
      have last := env.trans settled
      obtain ⟨asked, grown, none⟩ := commit_noRollback turn.left turn.after.env
      rw [← last] at grown
      exact ⟨ends, last, asked, grown, none⟩
  · simp only [runPooled, Checkout.scope, bind, StateT.bind, got]
    rfl

/-- A service that knows one session and fails to roll back. -/
def unyielding (clock : Clock) : System (Recorder Fleet) (Turns (Recorder Fleet) Unit Unit) :=
  let memory := { MemoryBackend.fresh none none false with created := 1, live := [⟨"session-1"⟩] }
  let backend : FaultyBackend :=
    ⟨memory, [(.rollback, some (.backend .unavailable "down"))], 0⟩
  ⟨⟨clock, ⟨Fleet.ofBackends [backend], []⟩, []⟩, [], [.idle .standard], ⟨(), []⟩⟩

/-- After a conflict, the work begins its transaction and fails. The failure to roll back is not
the one that is handed on. -/
theorem invoke_ends_with_failure_of_callback :
    let spoilt := Failure.application "spoilt"
    let clock := Clock.startingAt ⟨0, by decide⟩
    let sys := unyielding clock
    let session := Session.existing ⟨"session-1"⟩ 0 .empty clock.now
    let work : Work (Recorder Fleet) Unit Unit := fun number t =>
      if number = 1 then pure (.error (.aborted "busy" none), t)
      else do
        let (_, t) ← Sys.act t.begin
        pure (.error spoilt, t)
    let ended := invoke 0 0 session none work.listed sys
    spoilt.isConflict = false ∧ ended.1.1 = .error spoilt ∧
      ended.2.env.clock.sleeps.length = 1 ∧
      ∃ first last asked t, ended.2.own.turns = [first, last] ∧ last.outcome = .error spoilt ∧
        last.Ends spoilt [] ended.1.1 ended.2 ∧
        ended.2.env.service.heard = last.after.env.service.heard ++ asked ∧ asked.length = 1 ∧
        ended.1.2.transaction = some t ∧ last.left.GivenUp asked t := by
  intro spoilt clock sys session work ended
  have turns : ended.2.own.turns.length = 2 := by decide +kernel
  have failures : ended.2.own.turns.map (·.outcome.failure?) =
      [some (.aborted "busy" none), some spoilt] := by decide +kernel
  have begun : ended.2.own.turns.map (·.left.id?) = [none, some ⟨"txn-1"⟩] := by decide +kernel
  have unfinished : ended.2.own.turns.map (·.left.isFinished) = [false, false] := by
    decide +kernel
  have slept : ended.2.env.clock.sleeps.length = 1 := by decide +kernel
  obtain ⟨first, last, two⟩ := List.length_eq_two.mp turns
  rw [two] at failures begun unfinished
  simp only [List.map_cons, List.map_nil, List.cons.injEq] at failures begun unfinished
  have failed : last.outcome = .error spoilt := Outcome.eq_of_failure? failures.2.1
  obtain ⟨turns, listing, fails⟩ := (invoke_ends_with_failure 0 0 work).1 session none sys
  -- The call goes by its name again, lest it be computed wherever it is mentioned.
  have named : invoke 0 0 session none work.listed sys = ended := rfl
  rw [named] at listing fails
  have same : turns = [first, last] := listing.symm.trans two
  obtain ⟨ends, asked, t, grown, transaction, givenUp⟩ :=
    (fails [first] last [] spoilt same rfl).1 failed
  obtain ⟨reply, once⟩ := givenUp.once ⟨"txn-1"⟩ begun.2.1 unfinished.2.1
  exact ⟨rfl, ends.handedOn, slept, first, last, asked, t, two, failed, ends, grown,
    congrArg List.length once, transaction, givenUp⟩

end Executor
end SessionPooling
