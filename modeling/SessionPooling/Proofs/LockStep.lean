import SessionPooling.Pool.Basic

/-! Two runs in step. Work that goes on beside other work, each in surroundings of its own, ends
alike as long as the services on both sides tell the same. A probe tells whether the session
exists; that the service reports the session missing comes to the same as its saying no. What is
reported on the way does not count. -/
namespace SessionPooling
variable {σ : Type}

namespace Session

/-- What the reply to a probe comes to. -/
def verdict (reply : Except Failure Bool) : Except Failure Bool :=
  match reply with
  | .ok found => .ok found
  | .error e => if e.isNotFound then .ok false else .error e

end Session

/-- Two replies that tell the same. -/
def Request.SameNews : (request : Request) → request.Reply → request.Reply → Prop
  | .probe _, reply, other => Session.verdict reply = Session.verdict other
  | _, reply, other => reply = other

theorem Request.SameNews.refl (request : Request) (reply : request.Reply) :
    request.SameNews reply reply := by
  cases request <;> exact rfl

/-- Services in states that are related, whatever the clock shows, tell the same and stay
related, also while time passes. -/
structure TellsAlike [Service σ] (R : Clock → σ → σ → Prop) : Prop where
  role : ∀ {clock s t}, R clock s t →
    ∀ backend, Service.role backend s = Service.role backend t
  answer : ∀ {clock s t}, R clock s t → ∀ backend request,
    request.SameNews (Service.answer backend request clock.now s).1
      (Service.answer backend request clock.now t).1 ∧
    R clock (Service.answer backend request clock.now s).2
      (Service.answer backend request clock.now t).2
  waits : ∀ {clock s t}, R clock s t → ∀ d, R (clock.wait d) s t

/-- Surroundings at the same time, with services in related states. -/
structure Env.Alike (R : Clock → σ → σ → Prop) (env other : Env σ) : Prop where
  clock : env.clock = other.clock
  service : R env.clock env.service other.service

namespace Act
variable {R : Clock → σ → σ → Prop} {α α' β β' : Type}

/-- Two pieces of work that start in surroundings that are alike end in such, with results that
are related. -/
def InStep (R : Clock → σ → σ → Prop) (act : Act σ α) (other : Act σ α') (Q : α → α' → Prop) : Prop :=
  ∀ env env' : Env σ, env.Alike R env' →
    Q (act env).1 (other env').1 ∧ (act env).2.Alike R (other env').2

namespace InStep
variable {act : Act σ α} {other : Act σ α'} {next : α → Act σ β} {next' : α' → Act σ β'}
  {Q Q' : α → α' → Prop} {S : β → β' → Prop}

theorem pure {a : α} {a' : α'} (holds : Q a a') :
    InStep R (Pure.pure a : Act σ α) (Pure.pure a') Q :=
  fun _ _ alike => ⟨holds, alike⟩

theorem bind (first : act.InStep R other Q)
    (rest : ∀ a a', Q a a' → (next a).InStep R (next' a') S) :
    InStep R (act >>= next) (other >>= next') S := by
  intro env env' alike
  obtain ⟨holds, alikeNext⟩ := first env env' alike
  exact rest _ _ holds _ _ alikeNext

theorem mono (first : act.InStep R other Q) (weaker : ∀ a a', Q a a' → Q' a a') :
    act.InStep R other Q' := by
  intro env env' alike
  obtain ⟨holds, alikeNext⟩ := first env env' alike
  exact ⟨weaker _ _ holds, alikeNext⟩

/-- Work on a part of something, whatever is made of what it leaves. -/
theorem within {ρ : Type} {work : Act σ (α × ρ)} (wrap : ρ → β) (inStep : work.InStep R work Eq) :
    InStep R (work >>= fun done => Pure.pure (done.1, wrap done.2))
      (work >>= fun done => Pure.pure (done.1, wrap done.2)) Eq := by
  refine bind inStep ?_
  rintro done _ rfl
  exact pure rfl

theorem report (entry entry' : LogEntry) :
    InStep R (Act.report entry : Act σ Unit) (Act.report entry') Eq := by
  intro env env' alike
  exact ⟨rfl, alike.clock, alike.service⟩

variable [Service σ]

theorem wait (alike : TellsAlike R) (d : Duration) :
    InStep R (Act.wait d : Act σ Unit) (Act.wait d) Eq := by
  intro env env' surroundings
  refine ⟨rfl, ?_, alike.waits surroundings.service d⟩
  exact congrArg (Clock.wait · d) surroundings.clock

theorem now (alike : TellsAlike R) : InStep R (Act.now : Act σ Instant) Act.now Eq := by
  intro env env' surroundings
  have same := surroundings.clock
  refine ⟨?_, ?_, alike.waits surroundings.service Clock.glance⟩
  · simp only [Act.now, Clock.look, same]
  · simp only [Act.now, Clock.look, same]

theorem roleOf (alike : TellsAlike R) (backend : BackendId) :
    InStep R (Act.roleOf backend : Act σ (Option String)) (Act.roleOf backend) Eq := by
  intro env env' surroundings
  exact ⟨alike.role surroundings.service backend, surroundings⟩

theorem ask (alike : TellsAlike R) (backend : BackendId) (request : Request) :
    InStep R (Act.ask backend request : Act σ request.Reply) (Act.ask backend request)
      request.SameNews := by
  intro env env' surroundings
  obtain ⟨told, stays⟩ := alike.answer surroundings.service backend request
  have clock := surroundings.clock
  refine ⟨?_, clock, ?_⟩
  · simp only [Act.ask, ← clock]
    exact told
  · simp only [Act.ask, ← clock]
    exact stays

omit [Service σ]

/-- What follows a probe depends only on what the reply comes to. -/
theorem onVerdict {keep renew : Act σ β} {keep' renew' : Act σ β'} {giveUp : Failure → Act σ β}
    {giveUp' : Failure → Act σ β'} {told other : Except Failure Bool}
    (same : Session.verdict told = Session.verdict other) (keeping : keep.InStep R keep' S)
    (renewing : renew.InStep R renew' S) (givingUp : ∀ e, (giveUp e).InStep R (giveUp' e) S) :
    InStep R
      (match told with
        | .ok true => keep
        | .ok false => renew
        | .error e => if e.isNotFound then renew else giveUp e)
      (match other with
        | .ok true => keep'
        | .ok false => renew'
        | .error e => if e.isNotFound then renew' else giveUp' e) S := by
  -- A failure that reports the session missing is settled before the cases are told apart.
  have settled {γ : Type} (told : Except Failure Bool) (keep renew : Act σ γ)
      (giveUp : Failure → Act σ γ) :
      (match told with
        | .ok true => keep
        | .ok false => renew
        | .error e => if e.isNotFound then renew else giveUp e) =
      (match Session.verdict told with
        | .ok true => keep
        | .ok false => renew
        | .error e => giveUp e) := by
    cases told with
    | ok found => cases found <;> rfl
    | error e => cases missing : e.isNotFound <;> simp [Session.verdict, missing]
  rw [settled told, settled other, same]
  match Session.verdict other with
  | .ok true => exact keeping
  | .ok false => exact renewing
  | .error e => exact givingUp e

end InStep
end Act

section
variable [Service σ] {P : Clock → σ → Prop}

/-- Services tell the same as themselves, as long as something holds that no request and no waiting
changes. -/
theorem TellsAlike.of_invariant
    (answers : ∀ {clock s}, P clock s → ∀ backend request,
      P clock (Service.answer backend request clock.now s).2)
    (waits : ∀ {clock s}, P clock s → ∀ d, P (clock.wait d) s) :
    TellsAlike fun clock s t => s = t ∧ P clock s := by
  constructor
  · rintro clock s _ ⟨rfl, -⟩ backend
    rfl
  · rintro clock s _ ⟨rfl, holds⟩ backend request
    exact ⟨.refl request _, rfl, answers holds backend request⟩
  · rintro clock s _ ⟨rfl, holds⟩ d
    exact ⟨rfl, waits holds d⟩

/-- Work that goes alike wherever it is told the same keeps up what no request and no waiting
changes. -/
theorem Act.InStep.keeps {α : Type} {work : Act σ α}
    (inStep : ∀ R, TellsAlike R → work.InStep R work Eq)
    (answers : ∀ {clock s}, P clock s → ∀ backend request,
      P clock (Service.answer backend request clock.now s).2)
    (waits : ∀ {clock s}, P clock s → ∀ d, P (clock.wait d) s) {env : Env σ}
    (holds : P env.clock env.service) : P (work env).2.clock (work env).2.service := by
  obtain ⟨-, -, -, kept⟩ := inStep _ (.of_invariant answers waits) env env ⟨rfl, rfl, holds⟩
  exact kept

end

variable [Service σ] {R : Clock → σ → σ → Prop}

namespace Session

theorem touch_inStep (alike : TellsAlike R) (session : Session) :
    (session.touch (σ := σ)).InStep R session.touch Eq := by
  refine .bind (.now alike) ?_
  rintro now _ rfl
  exact .pure rfl

theorem create_inStep (alike : TellsAlike R) (session : Session) :
    session.create.InStep R session.create Eq := by
  unfold create
  split
  · exact .pure rfl
  · refine .bind (.ask alike _ _) ?_
    rintro reply _ rfl
    cases reply with
    | error e => exact .pure rfl
    | ok id =>
      refine .bind (.now alike) ?_
      rintro now _ rfl
      exact .pure rfl

theorem exists?_inStep (alike : TellsAlike R) (session : Session) :
    session.exists?.InStep R session.exists? fun told other => verdict told = verdict other := by
  unfold exists?
  split
  · exact .pure rfl
  · exact .ask alike _ _

theorem ping_inStep (alike : TellsAlike R) (session : Session) :
    session.ping.InStep R session.ping Eq := by
  unfold ping
  split
  · exact .pure rfl
  · refine .bind (.ask alike _ _) ?_
    rintro reply _ rfl
    cases reply with
    | error e => exact .pure rfl
    | ok _ =>
      refine .bind (session.touch_inStep alike) ?_
      rintro touched _ rfl
      exact .pure rfl

theorem deleteQuietly_inStep (alike : TellsAlike R) (session : Session) :
    session.deleteQuietly.InStep R session.deleteQuietly Eq := by
  have deleted : session.delete.InStep R session.delete Eq := by
    unfold delete
    split
    · exact .pure rfl
    · exact .ask alike _ _
  refine .bind deleted ?_
  rintro reply _ rfl
  cases reply <;> exact .pure rfl

end Session
end SessionPooling
