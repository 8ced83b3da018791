import SessionPooling.Proofs.Script

/-! Exactly once. A run that ends well had one commit succeed, as its last request, with just
the writes that its last attempt offered; a run that ends otherwise had none succeed. The work
of each attempt is any script that leaves committing to the run. -/
namespace SessionPooling

def Exchange.committed? : Exchange → Option (List Mutation)
  | ⟨_, .commit _ _ mutations, .ok _⟩ => some mutations
  | _ => none

def NoneCommitted (heard : List Exchange) : Prop := ∀ e ∈ heard, e.committed? = none

namespace NoneCommitted

theorem nil : NoneCommitted [] := fun _ member => (List.not_mem_nil member).elim

theorem cons (head : e.committed? = none) (rest : NoneCommitted heard) :
    NoneCommitted (e :: heard) :=
  List.forall_mem_cons.2 ⟨head, rest⟩

theorem append (first : NoneCommitted heard) (second : NoneCommitted more) :
    NoneCommitted (heard ++ more) :=
  List.forall_mem_append.2 ⟨first, second⟩

end NoneCommitted

namespace Transaction
variable {session : SessionId} {backend : BackendId} {offered : List Mutation} {t : Transaction}

/-- A transaction that is not committed and, unless it was given up, holds just the writes that
were offered to it. -/
inductive Open (session : SessionId) (backend : BackendId) (offered : List Mutation) :
    Transaction → Prop where
  | pending : Open session backend offered ⟨session, backend, .pending, offered⟩
  | begun (id) : Open session backend offered ⟨session, backend, .begun id, offered⟩
  | rolledBack (id mutations) :
      Open session backend offered ⟨session, backend, .rolledBack id, mutations⟩

theorem Open.buffer (isOpen : t.Open session backend offered) (mutation : Mutation) :
    (t.buffer mutation).2.Open session backend (offered ++ [mutation]) := by
  cases isOpen with
  | pending => exact .pending
  | begun id => exact .begun id
  | rolledBack id mutations => exact .rolledBack id mutations

variable {σ : Type} [Service σ]

theorem Open.begin (isOpen : t.Open session backend offered) :
    (t.begin (σ := Recorder σ)).Hears fun r heard =>
      NoneCommitted heard ∧ r.2.Open session backend offered := by
  cases isOpen with
  | pending =>
    refine .asking fun reply => ?_
    cases reply with
    | error e => exact .pure ⟨.cons rfl .nil, .pending⟩
    | ok id => exact .pure ⟨.cons rfl .nil, .begun id⟩
  | begun id => exact .pure ⟨.nil, .begun id⟩
  | rolledBack id mutations => exact .pure ⟨.nil, .rolledBack id mutations⟩

theorem Open.rollback (isOpen : t.Open session backend offered) :
    (t.rollback (σ := Recorder σ)).Hears fun r heard =>
      NoneCommitted heard ∧ r.2.Open session backend offered := by
  cases isOpen with
  | pending => exact .pure ⟨.nil, .rolledBack none offered⟩
  | begun id => exact .asking fun reply => .pure ⟨.cons rfl .nil, .rolledBack (some id) offered⟩
  | rolledBack id mutations => exact .pure ⟨.nil, .rolledBack id mutations⟩

/-- How a commit may end: with the writes applied by the last request, or with nothing applied. -/
inductive CommitEnds (session : SessionId) (backend : BackendId) (offered : List Mutation) :
    Except Failure Instant → Transaction → List Exchange → Prop where
  | committed {earlier} (id time) (before : NoneCommitted earlier) :
      CommitEnds session backend offered (.ok time)
        ⟨session, backend, .committed id time, offered⟩
        (earlier ++ [⟨backend, .commit session id offered, .ok time⟩])
  | failed {heard} (e t) (none : NoneCommitted heard) :
      CommitEnds session backend offered (.error e) t heard

theorem requestCommit_ends {stage : TransactionStage} (id : TransactionId)
    (before : NoneCommitted earlier) :
    (requestCommit (σ := Recorder σ) ⟨session, backend, stage, offered⟩ id).HearsAfter earlier
      fun r heard => CommitEnds session backend offered r.1 r.2 heard := by
  refine .asking fun reply => ?_
  cases reply with
  | error e => exact .pure (.failed e _ (before.append (.cons rfl .nil)))
  | ok time => exact .pure (.committed id time before)

theorem Open.commit (isOpen : t.Open session backend offered) :
    (t.commit (σ := Recorder σ)).Hears fun r heard =>
      CommitEnds session backend offered r.1 r.2 heard := by
  cases isOpen with
  | begun id => exact requestCommit_ends id .nil
  | rolledBack id mutations => exact .pure (.failed _ _ .nil)
  | pending =>
    -- What was not begun is begun first, and its commit is asked for only if that succeeds.
    refine .bind (P := fun r heard => NoneCommitted heard ∧
      ∀ id, r.1 = .ok id → r.2 = ⟨session, backend, .begun id, offered⟩) ?_ ?_
    · refine .asking fun reply => ?_
      cases reply with
      | error e => exact .pure ⟨.cons rfl .nil, fun _ ended => nomatch ended⟩
      | ok id => exact .pure ⟨.cons rfl .nil, fun _ ended => by cases ended; rfl⟩
    · rintro ⟨reply, begun⟩ heard ⟨none, known⟩
      cases reply with
      | error e => exact .pure (.failed e _ none)
      | ok id =>
        obtain rfl : begun = _ := known id rfl
        exact requestCommit_ends id none

end Transaction

namespace Script
variable {σ κ α : Type} [Service σ]

/-- A script that leaves committing to others keeps its transaction open, holding just what it
offered. -/
theorem perform_open (script : Script false κ α) :
    ∀ {t : Transaction} {offered : List Mutation}, t.Open session backend offered →
      (script.perform (σ := Recorder σ) t offered).Tells fun r heard pages =>
        pages = [] ∧ NoneCommitted heard ∧ r.2.1.Open session backend r.2.2 := by
  induction script with
  | finish outcome => exact fun isOpen => .pure ⟨rfl, .nil, isOpen⟩
  | begin next ih =>
    intro t offered isOpen
    refine .bind (.ofAct isOpen.begin) ?_
    rintro ⟨reply, t⟩ heard _ ⟨rfl, none, isOpen⟩
    exact (ih reply isOpen).mono fun _ _ _ ⟨same, rest, final⟩ => ⟨same, none.append rest, final⟩
  | buffer mutation next ih =>
    intro t offered isOpen
    exact ih _ (isOpen.buffer mutation)
  | rollback next ih =>
    intro t offered isOpen
    refine .bind (.ofAct isOpen.rollback) ?_
    rintro ⟨reply, t⟩ heard _ ⟨rfl, none, isOpen⟩
    exact (ih reply isOpen).mono fun _ _ _ ⟨same, rest, final⟩ => ⟨same, none.append rest, final⟩
  -- No script of this kind has a step that commits.
  | commit allowed next ih => cases allowed
  | consult change next ih =>
    exact fun isOpen => .silently (fun _ => ⟨rfl, rfl⟩) fun own => ih own isOpen
  | moveClock change next ih =>
    exact fun isOpen => .silently (fun _ => ⟨rfl, rfl⟩) fun now => ih now isOpen

/-- The work of an attempt writes one page, which says what its transaction holds. -/
theorem work_open {t : Transaction} (scripts : Nat → Script false κ α) (attempt : Nat)
    (isOpen : t.Open session backend []) :
    (work (σ := Recorder σ) scripts attempt t).Tells fun r heard pages =>
      NoneCommitted heard ∧ ∃ page : Page α, pages = [page] ∧ page.outcome = r.1 ∧
        r.2.Open session backend page.buffered := by
  refine .bind ((scripts attempt).perform_open isOpen) ?_
  rintro ⟨outcome, t, buffered⟩ heard _ ⟨rfl, none, isOpen⟩
  refine .bind (P := fun _ more pages => more = [] ∧ pages = [⟨attempt, buffered, outcome⟩])
    (fun _ => ⟨[], _, (List.append_nil _).symm, rfl, rfl, rfl⟩) ?_
  rintro _ _ _ ⟨rfl, rfl⟩
  exact .pure ⟨none.append .nil, _, rfl, rfl, isOpen⟩

end Script

namespace Executor
variable {σ κ α : Type} {before mid after : Session} {value : α}

/-- What a run that succeeded leaves: its last attempt ended with its value, its last request
committed the writes of that attempt, no commit before succeeded, and the transaction of the
session is the one that was committed. -/
def CommittedLast (value : α) (before after : Session) (heard : List Exchange)
    (pages : List (Page α)) : Prop :=
  ∃ earlier page id transaction time,
    before.id? = some id ∧
    heard = earlier ++ [⟨before.backend, .commit id transaction page.buffered, .ok time⟩] ∧
    NoneCommitted earlier ∧
    pages.getLast? = some page ∧ page.outcome = .ok value ∧
    after.transaction =
      some ⟨id, before.backend, .committed transaction time, page.buffered⟩

theorem CommittedLast.prepend {heard earlier : List Exchange} {pages earlierPages : List (Page α)}
    (last : CommittedLast value mid after heard pages) (none : NoneCommitted earlier)
    (backend : mid.backend = before.backend) (creation : mid.creation = before.creation) :
    CommittedLast value before after (earlier ++ heard) (earlierPages ++ pages) := by
  obtain ⟨inner, page, id, transaction, time, named, rfl, innerNone, written, ended, final⟩ := last
  refine ⟨earlier ++ inner, page, id, transaction, time, ?_, ?_, none.append innerNone, ?_, ended,
    ?_⟩
  · rw [← named, Session.id?, Session.id?, creation]
  · rw [List.append_assoc, backend]
  · rw [List.getLast?_append, written, Option.some_or]
  · rw [final, backend]

theorem CommittedLast.touched {heard : List Exchange} {pages : List (Page α)}
    (last : CommittedLast value before mid heard pages)
    (unchanged : after.transaction = mid.transaction) :
    CommittedLast value before after heard pages := by
  obtain ⟨earlier, page, id, transaction, time, named, same, none, written, ended, final⟩ := last
  exact ⟨earlier, page, id, transaction, time, named, same, none, written, ended,
    unchanged.trans final⟩

/-- A session that moved on to another use or transaction is still the same session. -/
structure SameHandle (before after : Session) : Prop where
  backend : after.backend = before.backend
  creation : after.creation = before.creation

def AttemptEnds (before : Session) : Verdict α → Session → List Exchange → List (Page α) → Prop
  | .done value, after, heard, pages => CommittedLast value before after heard pages
  | _, after, heard, _ => NoneCommitted heard ∧ SameHandle before after

def RunEnds (before : Session) : Outcome α → Session → List Exchange → List (Page α) → Prop
  | .ok value, after, heard, pages => CommittedLast value before after heard pages
  | _, _, heard, _ => NoneCommitted heard

variable [Service σ] {session : SessionId} {backend : BackendId} {offered : List Mutation}
  {t : Transaction}

theorem abandon_hears (isOpen : t.Open session backend offered) (cause : Failure) :
    (abandon (σ := Recorder σ) t cause).Hears fun _ heard => NoneCommitted heard := by
  unfold abandon
  split
  · exact .pure .nil
  · refine .bind isOpen.rollback ?_
    rintro ⟨reply, t⟩ heard ⟨none, -⟩
    cases reply with
    | ok _ => exact .pure none
    | error e => exact .silently (fun _ => rfl) fun _ => .pure none

/-- How an attempt goes on once its work ended. -/
def Settled (session : SessionId) (backend : BackendId) (offered : List Mutation)
    (outcome : Outcome α) : Verdict α → Transaction → List Exchange → Prop
  | .done value, t, heard =>
    outcome = .ok value ∧
      ∃ time, Transaction.CommitEnds session backend offered (.ok time) t heard
  | _, _, heard => NoneCommitted heard

theorem settle_settled (isOpen : t.Open session backend offered) (outcome : Outcome α) :
    (settle (σ := Recorder σ) t outcome).Hears fun r heard =>
      Settled session backend offered outcome r.1 r.2 heard := by
  cases outcome with
  | panic => exact .pure .nil
  | error e =>
    unfold settle
    dsimp only
    split
    · exact .pure .nil
    · refine .bind (abandon_hears isOpen e) fun t heard none => ?_
      exact .pure none
  | ok value =>
    refine .bind isOpen.commit ?_
    rintro ⟨reply, t⟩ heard ends
    cases reply with
    | ok time => exact .pure ⟨rfl, time, ends⟩
    | error e =>
      cases ends with
      | failed _ _ none =>
        refine .pure ?_
        unfold Verdict.ofFailure
        split
        · exact none
        · exact none

theorem attempt_ends (session : Session) (scripts : Nat → Script false κ α) (number : Nat) :
    (attempt (σ := Recorder σ) session (Script.work scripts number)).Tells
      fun r heard pages => AttemptEnds session r.1 r.2 heard pages := by
  obtain ⟨backend, template, creation, lastUse, inUse, transaction⟩ := session
  cases creation with
  | none => exact .pure ⟨.nil, rfl, rfl⟩
  | some creation =>
    refine .bind (Script.work_open scripts number .pending) ?_
    rintro ⟨outcome, t⟩ heard _ ⟨none, page, rfl, ended, isOpen⟩
    refine .bind (.ofAct (settle_settled isOpen outcome)) ?_
    rintro ⟨verdict, t⟩ more _ ⟨rfl, settled⟩
    cases verdict with
    | conflict e => exact .pure ⟨none.append settled, rfl, rfl⟩
    | failed e => exact .pure ⟨none.append settled, rfl, rfl⟩
    | panicked => exact .pure ⟨none.append settled, rfl, rfl⟩
    | done value =>
      obtain ⟨rfl, time, @⟨earlier, id, _, before⟩⟩ := settled
      exact .pure ⟨heard ++ earlier, page, creation.id, id, time, rfl,
        (List.append_assoc _ _ _).symm, none.append before, rfl, ended, rfl⟩

theorem delayUntilRetry_tells (x : Nat) (config : RetryConfig) (conflict : Failure)
    (state : RetryState) :
    (delayUntilRetry (σ := Recorder σ) (κ := Diary κ α) x config conflict state).Tells
      fun _ heard pages => heard = [] ∧ pages = [] := by
  have drawing : ∀ sys : System (Recorder σ) (Diary κ α),
      ((Sys.act (drawFor config conflict)) sys).2.env.service.heard = sys.env.service.heard ∧
      ((Sys.act (drawFor config conflict)) sys).2.own.pages = sys.own.pages := by
    intro sys
    unfold drawFor
    split
    · exact ⟨rfl, rfl⟩
    · exact ⟨rfl, rfl⟩
  unfold delayUntilRetry
  refine .silently (fun _ => ⟨rfl, rfl⟩) fun now => ?_
  split
  · refine .silently (fun _ => ⟨rfl, rfl⟩) fun _ => .silently (fun _ => ⟨rfl, rfl⟩) fun _ => ?_
    exact .pure ⟨rfl, rfl⟩
  · refine .silently drawing fun drawn => ?_
    split
    · exact .pure ⟨rfl, rfl⟩
    · split
      · refine .silently (fun _ => ⟨rfl, rfl⟩) fun _ => .silently (fun _ => ⟨rfl, rfl⟩) fun _ => ?_
        exact .pure ⟨rfl, rfl⟩
      · refine .silently (fun _ => ⟨rfl, rfl⟩) fun _ => .silently (fun _ => ⟨rfl, rfl⟩) fun _ => ?_
        refine .silently (fun _ => ⟨rfl, rfl⟩) fun _ => ?_
        exact .pure ⟨rfl, rfl⟩

/-- Each conflict leaves what was heard so far without a commit that succeeded, so the run ends
as its last attempt does. -/
theorem attempts_end (x : Nat) (config : RetryConfig) (scripts : Nat → Script false κ α)
    (remaining : Nat) :
    ∀ (state : RetryState) (session : Session),
      (attempts (σ := Recorder σ) x config (Script.work scripts) remaining state session).Tells
        fun r heard pages => RunEnds session r.1 r.2 heard pages := by
  induction remaining with
  | zero => exact fun _ _ => .pure .nil
  | succ remaining ih =>
    intro state session
    refine .silently (fun _ => ⟨rfl, rfl⟩) fun _ => ?_
    refine .bind (attempt_ends session scripts _) ?_
    rintro ⟨verdict, mid⟩ heard pages ends
    cases verdict with
    | done value =>
      refine .bind (P := fun touched more morePages => more = [] ∧ morePages = [] ∧
          touched.transaction = mid.transaction)
        (fun _ => ⟨[], [], (List.append_nil _).symm, (List.append_nil _).symm, rfl, rfl, rfl⟩) ?_
      rintro touched _ _ ⟨rfl, rfl, unchanged⟩
      rw [List.append_nil, List.append_nil]
      exact .pure (ends.touched unchanged)
    | failed e => exact .pure ends.1
    | panicked => exact .pure ends.1
    | conflict e =>
      obtain ⟨none, same⟩ := ends
      refine .bind (delayUntilRetry_tells x config e _) ?_
      rintro after _ _ ⟨rfl, rfl⟩
      rw [List.append_nil, List.append_nil]
      cases after with
      | giveUp => exact .pure none
      | panic => exact .pure none
      | retry state =>
        refine (ih state mid).mono ?_
        rintro ⟨outcome, after⟩ more morePages ends
        cases outcome with
        | ok value => exact ends.prepend none same.backend same.creation
        | error e => exact none.append ends
        | panic => exact none.append ends

theorem runWithTimeout_ends (x : Nat) (thread : Thread) (session : Session)
    (timeout : Option Duration) (scripts : Nat → Script false κ α) :
    (runWithTimeout (σ := Recorder σ) x thread session timeout (Script.work scripts)).Tells
      fun r heard pages => RunEnds session r.1 r.2 heard pages := by
  have marked (config : RetryConfig) : Sys.Tells (σ := σ) (κ := κ) (α := α)
      (do
        enter x thread
        Sys.count x countInvocation
        let now ← Sys.act Act.now
        let ended ← attempts x config (Script.work scripts) attemptLimit (.entered now timeout)
          session
        leave x thread
        pure ended)
      fun r heard pages => RunEnds session r.1 r.2 heard pages := by
    refine .silently (fun _ => ⟨rfl, rfl⟩) fun _ => .silently (fun _ => ⟨rfl, rfl⟩) fun _ => ?_
    refine .silently (fun _ => ⟨rfl, rfl⟩) fun now => ?_
    refine .bind (attempts_end x config scripts attemptLimit _ session) ?_
    intro ended heard pages ends
    exact .silently (fun _ => ⟨rfl, rfl⟩) fun _ => .pure ends
  intro sys
  unfold runWithTimeout
  split
  · exact ⟨[], [], (List.append_nil _).symm, (List.append_nil _).symm, .nil⟩
  next executor _ =>
    split
    · exact ⟨[], [], (List.append_nil _).symm, (List.append_nil _).symm, .nil⟩
    · exact marked executor.config sys

/-- Exactly once. However the services answer, whatever the session carried before and whatever
the scripts of the attempts do short of committing, a run with the deadline of its caller or of
the settings commits just once if it succeeds, and not at all if it fails or panics. -/
theorem run_commits_exactly_once (x : Nat) (thread : Thread) (session : Session)
    (scripts : Nat → Script false κ α) :
    (∀ timeout,
      (runWithTimeout (σ := Recorder σ) x thread session timeout (Script.work scripts)).Tells
        fun r heard pages => RunEnds session r.1 r.2 heard pages) ∧
    (run (σ := Recorder σ) x thread session (Script.work scripts)).Tells
      fun r heard pages => RunEnds session r.1 r.2 heard pages :=
  ⟨fun timeout => runWithTimeout_ends x thread session timeout scripts,
    fun sys => runWithTimeout_ends x thread session _ scripts sys⟩

end Executor
end SessionPooling
