import SessionPooling.Proofs.Recorder
import SessionPooling.Proofs.TransactionFields
import SessionPooling.Session

/-! The protocol of a transaction. Whatever is done with a transaction, in whatever order, and
whatever the service answers, what is asked for it follows one pattern: beginning it may fail any
number of times before it succeeds once, then committing it may fail any number of times, and then
there is at most one more request, a commit that succeeds or a rollback. Its fields, which are
written one after the other, never say that it is both committed and rolled back. -/
namespace SessionPooling

namespace Exchange

def BeginFails (session : SessionId) (backend : BackendId) (exchange : Exchange) : Prop :=
  ∃ e, exchange = ⟨backend, .begin session, .error e⟩

def CommitFails (session : SessionId) (backend : BackendId) (id : TransactionId)
    (exchange : Exchange) : Prop :=
  ∃ mutations e, exchange = ⟨backend, .commit session id mutations, .error e⟩

/-- The writes that a commit carries. -/
def carried? : Exchange → Option (List Mutation)
  | ⟨_, .commit _ _ mutations, _⟩ => some mutations
  | _ => none

end Exchange

/-- What becomes of a transaction when the session that has it is to get a new one. -/
def Session.supersede (holder : Session) (t : Transaction) : Transaction :=
  let holder := { holder with transaction := some t }
  match holder.newTransaction with
  | .error _ => t
  | .ok _ => holder.replacedTransaction.getD t

/-- A session that was never created gets no new transaction. -/
def TransactionFields.supersede (holder : Session) (fields : TransactionFields) :
    TransactionFields :=
  if holder.id?.isSome then fields.discard else fields

theorem TransactionFields.fields_supersede (holder : Session) (t : Transaction) :
    (holder.supersede t).fields = t.fields.supersede holder := by
  obtain ⟨backend, template, creation, lastUse, inUse, transaction⟩ := holder
  cases creation with
  | none => rfl
  | some creation => exact fields_discard t

namespace Transaction

/-- What was asked for a transaction that is known by a name: it was begun, under that name, once
that did not fail, and no commit since then succeeded. -/
inductive Opened (session : SessionId) (backend : BackendId) (id : TransactionId) :
    List Exchange → Prop where
  | intro {failed tries} (begins : ∀ e ∈ failed, e.BeginFails session backend)
      (commits : ∀ e ∈ tries, e.CommitFails session backend id) :
      Opened session backend id (failed ++ ⟨backend, .begin session, .ok id⟩ :: tries)

/-- What was asked for a transaction, from its first request on, by the stage that it is in. -/
inductive Conversation (session : SessionId) (backend : BackendId) :
    TransactionStage → List Exchange → Prop where
  | pending {heard} (begins : ∀ e ∈ heard, e.BeginFails session backend) :
      Conversation session backend .pending heard
  /-- It was given up before it was begun. -/
  | dropped {heard} (begins : ∀ e ∈ heard, e.BeginFails session backend) :
      Conversation session backend (.rolledBack none) heard
  | begun {id heard} (opened : Opened session backend id heard) :
      Conversation session backend (.begun id) heard
  /-- It was replaced, of which the service is not told. -/
  | replaced {id heard} (opened : Opened session backend id heard) :
      Conversation session backend (.rolledBack (some id)) heard
  | committed {id heard} (opened : Opened session backend id heard) (mutations time) :
      Conversation session backend (.committed id time)
        (heard ++ [⟨backend, .commit session id mutations, .ok time⟩])
  | rolledBack {id heard} (opened : Opened session backend id heard) (reply) :
      Conversation session backend (.rolledBack (some id))
        (heard ++ [⟨backend, .rollback session id, reply⟩])

section
variable {session : SessionId} {backend : BackendId} {id : TransactionId} {heard : List Exchange}
  {exchange : Exchange}

theorem Opened.begin (begins : ∀ e ∈ heard, e.BeginFails session backend) (id : TransactionId) :
    Opened session backend id (heard ++ [⟨backend, .begin session, .ok id⟩]) :=
  .intro begins (List.forall_mem_nil _)

theorem Opened.snoc (opened : Opened session backend id heard)
    (fails : exchange.CommitFails session backend id) :
    Opened session backend id (heard ++ [exchange]) := by
  cases opened with
  | @intro failed tries begins commits =>
    have more : ∀ e ∈ tries ++ [exchange], e.CommitFails session backend id :=
      List.forall_mem_append.2 ⟨commits, List.forall_mem_singleton.2 fails⟩
    rw [List.append_assoc, List.cons_append]
    exact .intro begins more

end

/-- What work on a transaction does: it stays the transaction that it is, the conversation goes on
as it should, and every commit carries the writes that the transaction holds. -/
structure Converses (t after : Transaction) (heard : List Exchange) : Prop where
  session : after.session = t.session
  backend : after.backend = t.backend
  mutations : after.mutations = t.mutations
  goesOn : ∀ before, Conversation t.session t.backend t.stage before →
    Conversation t.session t.backend after.stage (before ++ heard)
  carries : ∀ e ∈ heard, ∀ mutations, e.carried? = some mutations → mutations = t.mutations

namespace Converses
variable {t mid after : Transaction} {heard more : List Exchange}

theorem refl (t : Transaction) : Converses t t [] := by
  refine ⟨rfl, rfl, rfl, fun before conversation => ?_, List.forall_mem_nil _⟩
  rw [List.append_nil]
  exact conversation

theorem trans (first : Converses t mid heard) (second : Converses mid after more) :
    Converses t after (heard ++ more) := by
  obtain ⟨session, backend, mutations, goesOn, carries⟩ := second
  rw [first.session, first.backend] at goesOn
  rw [first.mutations] at carries
  refine ⟨session.trans first.session, backend.trans first.backend,
    mutations.trans first.mutations, fun before conversation => ?_,
    List.forall_mem_append.2 ⟨first.carries, carries⟩⟩
  rw [← List.append_assoc]
  exact goesOn _ (first.goesOn before conversation)

end Converses

variable {t : Transaction} {σ : Type} [Service σ]

/-- A request that begins a transaction opens it, or is one that failed. -/
theorem requestBegin_converses (pending : t.stage = .pending) :
    (t.requestBegin (σ := Recorder σ)).Hears fun r heard => Converses t r.2 heard ∧
      ∀ id, r.1 = .ok id → r.2.stage = .begun id := by
  refine .asking fun reply => ?_
  cases reply with
  | error e =>
    refine .pure ⟨⟨rfl, rfl, rfl, fun before conversation => ?_, ?_⟩, nofun⟩
    · rw [pending] at conversation ⊢
      cases conversation with
      | pending begins =>
        exact .pending (List.forall_mem_append.2 ⟨begins, List.forall_mem_singleton.2 ⟨e, rfl⟩⟩)
    · exact List.forall_mem_singleton.2 fun _ => nofun
  | ok id =>
    refine .pure ⟨⟨rfl, rfl, rfl, fun before conversation => ?_, ?_⟩, ?_⟩
    · rw [pending] at conversation
      cases conversation with
      | pending begins => exact .begun (.begin begins id)
    · exact List.forall_mem_singleton.2 fun _ => nofun
    · intro other same
      cases same
      rfl

theorem begin_converses (t : Transaction) :
    (t.begin (σ := Recorder σ)).Hears fun r heard => Converses t r.2 heard := by
  unfold begin
  split
  · exact .pure (.refl t)
  · exact .pure (.refl t)
  · exact .pure (.refl t)
  next pending => exact (requestBegin_converses pending).mono fun _ _ h => h.1

/-- A request that commits a transaction ends it, or is one that failed. -/
theorem requestCommit_converses {id : TransactionId} (begun : t.stage = .begun id) :
    (t.requestCommit (σ := Recorder σ) id).Hears fun r heard => Converses t r.2 heard := by
  refine .asking fun reply => ?_
  have carries : ∀ e ∈ ([⟨t.backend, .commit t.session id t.mutations, reply⟩] : List Exchange),
      ∀ mutations, e.carried? = some mutations → mutations = t.mutations := by
    refine List.forall_mem_singleton.2 fun mutations same => ?_
    exact (Option.some.inj same).symm
  cases reply with
  | error e =>
    refine .pure ⟨rfl, rfl, rfl, fun before conversation => ?_, carries⟩
    rw [begun] at conversation ⊢
    cases conversation with
    | begun opened => exact .begun (opened.snoc ⟨t.mutations, e, rfl⟩)
  | ok time =>
    refine .pure ⟨rfl, rfl, rfl, fun before conversation => ?_, carries⟩
    rw [begun] at conversation
    cases conversation with
    | begun opened => exact .committed opened t.mutations time

theorem commit_converses (t : Transaction) :
    (t.commit (σ := Recorder σ)).Hears fun r heard => Converses t r.2 heard := by
  unfold commit
  split
  · exact .pure (.refl t)
  · exact .pure (.refl t)
  next id begun => exact requestCommit_converses begun
  next pending =>
    refine .bind (requestBegin_converses pending) ?_
    rintro ⟨reply, mid⟩ heard ⟨converses, opens⟩
    cases reply with
    | error e => exact .pure converses
    | ok id => exact (requestCommit_converses (opens id rfl)).mono fun _ _ => converses.trans

theorem rollback_converses (t : Transaction) :
    (t.rollback (σ := Recorder σ)).Hears fun r heard => Converses t r.2 heard := by
  unfold rollback
  split
  · exact .pure (.refl t)
  · exact .pure (.refl t)
  next pending =>
    refine .pure ⟨rfl, rfl, rfl, fun before conversation => ?_, List.forall_mem_nil _⟩
    rw [pending] at conversation
    rw [List.append_nil]
    cases conversation with
    | pending begins => exact .dropped begins
  next id begun =>
    refine .asking fun reply => .pure ⟨rfl, rfl, rfl, fun before conversation => ?_, ?_⟩
    · rw [begun] at conversation
      cases conversation with
      | begun opened => exact .rolledBack opened reply
    · exact List.forall_mem_singleton.2 fun _ => nofun

omit [Service σ] in
theorem discard_converses (t : Transaction) : Converses t t.discard [] := by
  unfold discard
  split
  next pending =>
    refine ⟨rfl, rfl, rfl, fun before conversation => ?_, List.forall_mem_nil _⟩
    rw [pending] at conversation
    rw [List.append_nil]
    cases conversation with
    | pending begins => exact .dropped begins
  next id begun =>
    refine ⟨rfl, rfl, rfl, fun before conversation => ?_, List.forall_mem_nil _⟩
    rw [begun] at conversation
    rw [List.append_nil]
    cases conversation with
    | begun opened => exact .replaced opened
  · exact .refl t

omit [Service σ] in
theorem supersede_converses (holder : Session) (t : Transaction) :
    Converses t (holder.supersede t) [] := by
  unfold Session.supersede
  dsimp only
  split
  · exact .refl t
  · exact discard_converses t

/-! A transaction that is committed or given up does nothing any more. -/

/-- Why a finished transaction refuses to do anything. -/
def refusal (t : Transaction) : Failure :=
  .invalidOperation (if t.isRolledBack then .transactionRolledBack else .transactionCommitted)

omit [Service σ] in
theorem isFinished_iff (t : Transaction) :
    t.isFinished ↔ t.committed?.isSome ∨ t.isRolledBack := by
  unfold isFinished committed? isRolledBack
  cases t.stage <;> simp

omit [Service σ] in
theorem committed_or_rolledBack (t : Transaction) : ¬ (t.committed?.isSome ∧ t.isRolledBack) := by
  unfold committed? isRolledBack
  cases t.stage <;> simp

omit [Service σ] in
theorem begun_of_committed (t : Transaction) : t.committed?.isSome → t.id?.isSome := by
  unfold committed? id?
  cases t.stage <;> simp

omit [Service σ] in
theorem stage_of_finished (finished : t.isFinished) :
    (∃ id time, t.stage = .committed id time) ∨ ∃ id, t.stage = .rolledBack id := by
  unfold isFinished at finished
  split at finished
  next id time stage => exact .inl ⟨id, time, stage⟩
  next id stage => exact .inr ⟨id, stage⟩
  · cases finished

omit [Service σ] in
theorem supersede_of_finished (holder : Session) (finished : t.isFinished) :
    holder.supersede t = t := by
  have kept : t.discard = t := by
    obtain ⟨id, time, stage⟩ | ⟨id, stage⟩ := stage_of_finished finished
    · simp only [discard, stage]
    · simp only [discard, stage]
  unfold Session.supersede
  dsimp only
  split
  · rfl
  · exact kept

omit [Service σ] in
theorem buffer_of_finished (finished : t.isFinished) (mutation : Mutation) :
    t.buffer mutation = (.error t.refusal, t) := by
  obtain ⟨id, time, stage⟩ | ⟨id, stage⟩ := stage_of_finished finished
  · simp [buffer, refusal, isRolledBack, stage]
  · simp [buffer, refusal, isRolledBack, stage]

omit [Service σ] in
theorem buffer_of_unfinished (unfinished : t.isFinished = false) (mutation : Mutation) :
    t.buffer mutation = (.ok (), { t with mutations := t.mutations ++ [mutation] }) := by
  unfold isFinished at unfinished
  unfold buffer
  split at unfinished
  · cases unfinished
  · cases unfinished
  · rfl

theorem begin_of_finished (finished : t.isFinished) :
    t.begin (σ := σ) = pure (.error t.refusal, t) := by
  obtain ⟨id, time, stage⟩ | ⟨id, stage⟩ := stage_of_finished finished
  · simp [begin, refusal, isRolledBack, stage]
  · simp [begin, refusal, isRolledBack, stage]

theorem commit_of_finished (finished : t.isFinished) :
    t.commit (σ := σ) = pure (.error t.refusal, t) := by
  obtain ⟨id, time, stage⟩ | ⟨id, stage⟩ := stage_of_finished finished
  · simp [commit, refusal, isRolledBack, stage]
  · simp [commit, refusal, isRolledBack, stage]

theorem rollback_of_finished (finished : t.isFinished) :
    t.rollback (σ := σ) = pure (.error t.refusal, t) := by
  obtain ⟨id, time, stage⟩ | ⟨id, stage⟩ := stage_of_finished finished
  · simp [rollback, refusal, isRolledBack, stage]
  · simp [rollback, refusal, isRolledBack, stage]

end Transaction

/-- What can be done with a transaction, and what can happen meanwhile. -/
inductive Deed (σ : Type) where
  | begin
  | buffer (mutation : Mutation)
  | commit
  | rollback
  /-- The session that has the transaction gets a new one. -/
  | supersede (holder : Session)
  | outside (change : σ → σ)
  | moveClock (change : Clock → Clock)

/-- Whether a deed asks something of the transaction, and can be refused. -/
def Deed.Asks {σ : Type} : Deed σ → Prop
  | .begin | .buffer _ | .commit | .rollback => True
  | _ => False

/-- A transaction, its surroundings, and the writes that it accepted, oldest first. -/
structure Dealing (σ : Type) where
  env : Env (Recorder σ)
  transaction : Transaction
  accepted : List Mutation

namespace Dealing
variable {σ : Type}

/-- A transaction of a session that is new, among services that were asked for nothing yet. -/
def start (session : SessionId) (backend : BackendId) (clock : Clock) (services : σ) : Dealing σ :=
  ⟨⟨clock, ⟨services, []⟩, []⟩, .fresh session backend, []⟩

def heard (d : Dealing σ) : List Exchange := d.env.service.heard

def operate (d : Dealing σ) (work : Act (Recorder σ) (α × Transaction)) : Dealing σ :=
  let ((_, transaction), env) := work d.env
  { d with env, transaction }

variable [Service σ]

def step (d : Dealing σ) : Deed σ → Dealing σ
  | .begin => d.operate d.transaction.begin
  | .buffer mutation =>
    let (reply, transaction) := d.transaction.buffer mutation
    let accepted := if reply.isOk then d.accepted ++ [mutation] else d.accepted
    { d with transaction, accepted }
  | .commit => d.operate d.transaction.commit
  | .rollback => d.operate d.transaction.rollback
  | .supersede holder => { d with transaction := holder.supersede d.transaction }
  | .outside change =>
    let services := { d.env.service with inner := change d.env.service.inner }
    { d with env := { d.env with service := services } }
  | .moveClock change => { d with env := { d.env with clock := change d.env.clock } }

def play (d : Dealing σ) (deeds : List (Deed σ)) : Dealing σ := deeds.foldl step d

/-- The failure with which a deed ends, if it does. -/
def failure? (d : Dealing σ) : Deed σ → Option Failure
  | .begin => errorOf (d.transaction.begin d.env).1.1
  | .buffer mutation => errorOf (d.transaction.buffer mutation).1
  | .commit => errorOf (d.transaction.commit d.env).1.1
  | .rollback => errorOf (d.transaction.rollback d.env).1.1
  | _ => none
where
  errorOf {α : Type} : Except Failure α → Option Failure
    | .ok _ => none
    | .error e => some e

/-- What always holds of a transaction: it stays with its session, it holds the writes that it
accepted, and what was asked for it is as its stage says. -/
structure Proper (session : SessionId) (backend : BackendId) (d : Dealing σ) : Prop where
  own : d.transaction.session = session
  there : d.transaction.backend = backend
  holds : d.transaction.mutations = d.accepted
  conversation : Transaction.Conversation session backend d.transaction.stage d.heard

omit [Service σ] in
theorem start_proper (session : SessionId) (backend : BackendId) (clock : Clock) (services : σ) :
    (start session backend clock services).Proper session backend :=
  ⟨rfl, rfl, rfl, .pending (List.forall_mem_nil _)⟩

section
variable {session : SessionId} {backend : BackendId} {d after : Dealing σ} {heard : List Exchange}

/-- What a deed does, and what is asked meanwhile. -/
structure Goes (session : SessionId) (backend : BackendId) (d after : Dealing σ)
    (heard : List Exchange) : Prop where
  grown : after.heard = d.heard ++ heard
  proper : after.Proper session backend
  carries : ∀ e ∈ heard, ∀ mutations, e.carried? = some mutations → mutations = d.accepted

omit [Service σ] in
theorem Proper.goes (proper : d.Proper session backend) (grown : after.heard = d.heard ++ heard)
    (converses : d.transaction.Converses after.transaction heard)
    (accepted : after.accepted = d.accepted) : Goes session backend d after heard := by
  obtain ⟨rfl, rfl, holds, conversation⟩ := proper
  refine ⟨grown, ⟨converses.session, converses.backend, ?_, ?_⟩, ?_⟩
  · rw [converses.mutations, accepted]
    exact holds
  · rw [grown]
    exact converses.goesOn d.heard conversation
  · rw [← holds]
    exact converses.carries

theorem Proper.step (proper : d.Proper session backend) (deed : Deed σ) :
    ∃ heard, Goes session backend d (d.step deed) heard := by
  have still : d.heard = d.heard ++ [] := (List.append_nil _).symm
  cases deed with
  | begin =>
    obtain ⟨heard, grown, converses⟩ := d.transaction.begin_converses d.env
    exact ⟨heard, proper.goes grown converses rfl⟩
  | buffer mutation =>
    cases finished : d.transaction.isFinished with
    | true =>
      have same : d.step (.buffer mutation) = d := by
        simp only [Dealing.step, Transaction.buffer_of_finished finished]
        rfl
      rw [same]
      exact ⟨[], proper.goes still (.refl _) rfl⟩
    | false =>
      have buffered := Transaction.buffer_of_unfinished finished mutation
      simp only [Dealing.step, buffered]
      refine ⟨[], still, ⟨proper.own, proper.there, ?_, proper.conversation⟩, List.forall_mem_nil _⟩
      exact congrArg (· ++ [mutation]) proper.holds
  | commit =>
    obtain ⟨heard, grown, converses⟩ := d.transaction.commit_converses d.env
    exact ⟨heard, proper.goes grown converses rfl⟩
  | rollback =>
    obtain ⟨heard, grown, converses⟩ := d.transaction.rollback_converses d.env
    exact ⟨heard, proper.goes grown converses rfl⟩
  | supersede holder =>
    exact ⟨[], proper.goes still (d.transaction.supersede_converses holder) rfl⟩
  | outside change => exact ⟨[], proper.goes still (.refl _) rfl⟩
  | moveClock change => exact ⟨[], proper.goes still (.refl _) rfl⟩

theorem Proper.play (deeds : List (Deed σ)) :
    ∀ {d : Dealing σ}, d.Proper session backend → (d.play deeds).Proper session backend := by
  induction deeds with
  | nil => exact fun proper => proper
  | cons deed deeds ih =>
    intro d proper
    obtain ⟨heard, goes⟩ := proper.step deed
    exact ih goes.proper

end

/-- Nothing that is done with a finished transaction changes it or asks for anything. -/
theorem step_of_finished {d : Dealing σ} (finished : d.transaction.isFinished) (deed : Deed σ) :
    (d.step deed).transaction = d.transaction ∧ (d.step deed).heard = d.heard ∧
      (deed.Asks → d.failure? deed = some d.transaction.refusal) := by
  cases deed with
  | begin =>
    simp only [step, operate, heard, failure?, Transaction.begin_of_finished finished]
    exact ⟨rfl, rfl, fun _ => rfl⟩
  | buffer mutation =>
    simp only [step, heard, failure?, Transaction.buffer_of_finished finished]
    exact ⟨trivial, trivial, fun _ => rfl⟩
  | commit =>
    simp only [step, operate, heard, failure?, Transaction.commit_of_finished finished]
    exact ⟨rfl, rfl, fun _ => rfl⟩
  | rollback =>
    simp only [step, operate, heard, failure?, Transaction.rollback_of_finished finished]
    exact ⟨rfl, rfl, fun _ => rfl⟩
  | supersede holder =>
    exact ⟨Transaction.supersede_of_finished holder finished, rfl, False.elim⟩
  | outside change => exact ⟨rfl, rfl, False.elim⟩
  | moveClock change => exact ⟨rfl, rfl, False.elim⟩

end Dealing

/-- A transaction field by field, and its surroundings. -/
structure FieldDealing (σ : Type) where
  env : Env (Recorder σ)
  transaction : TransactionFields

def Dealing.fields {σ : Type} (d : Dealing σ) : FieldDealing σ := ⟨d.env, d.transaction.fields⟩

namespace FieldDealing
variable {σ : Type}

def start (session : SessionId) (backend : BackendId) (clock : Clock) (services : σ) :
    FieldDealing σ :=
  ⟨⟨clock, ⟨services, []⟩, []⟩, .fresh session backend⟩

def heard (d : FieldDealing σ) : List Exchange := d.env.service.heard

variable [Service σ]

def undergo (d : FieldDealing σ) (deed : TransactionDeed) : FieldDealing σ :=
  let ((_, transaction), env) := d.transaction.undergo deed d.env
  ⟨env, transaction⟩

def step (d : FieldDealing σ) : Deed σ → FieldDealing σ
  | .begin => d.undergo .begin
  | .buffer mutation => d.undergo (.buffer mutation)
  | .commit => d.undergo .commit
  | .rollback => d.undergo .rollback
  | .supersede holder => { d with transaction := d.transaction.supersede holder }
  | .outside change =>
    let services := { d.env.service with inner := change d.env.service.inner }
    { d with env := { d.env with service := services } }
  | .moveClock change => { d with env := { d.env with clock := change d.env.clock } }

def play (d : FieldDealing σ) (deeds : List (Deed σ)) : FieldDealing σ := deeds.foldl step d

/-- The failure with which a deed ends, if it does. -/
def failure? (d : FieldDealing σ) : Deed σ → Option Failure
  | .begin => failureOf .begin
  | .buffer mutation => failureOf (.buffer mutation)
  | .commit => failureOf .commit
  | .rollback => failureOf .rollback
  | _ => none
where
  failureOf (deed : TransactionDeed) : Option Failure :=
    Dealing.failure?.errorOf (d.transaction.undergo deed d.env).1.1

/-! Field by field or as one value, a transaction is the same after every deed. -/

theorem undergo_fields (d : Dealing σ) (deed : TransactionDeed) :
    d.fields.undergo deed = (d.operate (d.transaction.undergo deed)).fields := by
  simp only [undergo, Dealing.fields, TransactionFields.undergo, TransactionWork.on_perform]
  rfl

theorem step_fields (d : Dealing σ) (deed : Deed σ) :
    d.fields.step deed = (d.step deed).fields := by
  cases deed with
  | begin => exact undergo_fields d .begin
  | buffer mutation => exact undergo_fields d (.buffer mutation)
  | commit => exact undergo_fields d .commit
  | rollback => exact undergo_fields d .rollback
  | supersede holder =>
    exact congrArg (FieldDealing.mk d.env)
      (TransactionFields.fields_supersede holder d.transaction).symm
  | outside change => rfl
  | moveClock change => rfl

theorem play_fields (deeds : List (Deed σ)) :
    ∀ d : Dealing σ, d.fields.play deeds = (d.play deeds).fields := by
  induction deeds with
  | nil => exact fun _ => rfl
  | cons deed deeds ih =>
    intro d
    have stepped := ih (d.step deed)
    rw [← step_fields] at stepped
    exact stepped

theorem failureOf_fields (d : Dealing σ) (deed : TransactionDeed) :
    failure?.failureOf d.fields deed =
      Dealing.failure?.errorOf (d.transaction.undergo deed d.env).1.1 := by
  simp only [failure?.failureOf, Dealing.fields, TransactionFields.undergo,
    TransactionWork.on_perform]
  rfl

theorem failure?_fields (d : Dealing σ) (deed : Deed σ) :
    d.fields.failure? deed = d.failure? deed := by
  have ignored {α : Type} (reply : Except Failure α) :
      Dealing.failure?.errorOf (reply.map fun _ => ()) = Dealing.failure?.errorOf reply := by
    cases reply with
    | ok a => rfl
    | error e => rfl
  cases deed with
  | begin =>
    exact (failureOf_fields d .begin).trans (ignored (d.transaction.begin d.env).1.1)
  | buffer mutation => exact failureOf_fields d (.buffer mutation)
  | commit =>
    exact (failureOf_fields d .commit).trans (ignored (d.transaction.commit d.env).1.1)
  | rollback => exact failureOf_fields d .rollback
  | supersede holder => rfl
  | outside change => rfl
  | moveClock change => rfl

end FieldDealing

namespace Dealing
variable {σ : Type} [Service σ]

/-- The protocol of a transaction, whatever is done with it and whatever the services answer. What
was asked for it is as its stage says: beginnings that failed, one that did not, commits that
failed, and at the end a commit that succeeded or a rollback, all for its own session and under
the name that it was begun with. Each commit carries the writes that were accepted until then, in
order. Its fields, written one after the other, are at every time those of its stage: it is never
both committed and rolled back, what is committed was begun, and once it is either, nothing changes
any of them, asks for anything, or is done but refused. -/
theorem play_follows_protocol (session : SessionId) (backend : BackendId) (clock : Clock)
    (services : σ) (deeds : List (Deed σ)) :
    let begun := start session backend clock services
    let d := begun.play deeds
    let f := (FieldDealing.start session backend clock services).play deeds
    (f = d.fields ∧ ∀ deed, f.failure? deed = d.failure? deed) ∧
    Transaction.Conversation session backend d.transaction.stage d.heard ∧
    (∀ earlier deed later, deeds = earlier ++ deed :: later →
      let before := begun.play earlier
      ∃ heard, (before.step deed).heard = before.heard ++ heard ∧
        ∀ e ∈ heard, ∀ mutations, e.carried? = some mutations → mutations = before.accepted) ∧
    ¬ (f.transaction.committed.isSome ∧ f.transaction.rolledBack) ∧
    (f.transaction.committed.isSome → f.transaction.id.isSome) ∧
    (f.transaction.committed.isSome ∨ f.transaction.rolledBack → ∀ deed,
      (d.step deed).transaction = d.transaction ∧ (f.step deed).transaction = f.transaction ∧
        (f.step deed).heard = f.heard ∧
        (deed.Asks → ∃ cause, f.failure? deed = some (.invalidOperation cause))) := by
  intro begun d f
  have proper : begun.Proper session backend := start_proper session backend clock services
  have same : f = d.fields := FieldDealing.play_fields deeds begun
  have replied (deed : Deed σ) : f.failure? deed = d.failure? deed := by
    rw [same]
    exact FieldDealing.failure?_fields d deed
  refine ⟨⟨same, replied⟩, (proper.play deeds).conversation, ?_, ?_, ?_, ?_⟩
  · rintro earlier deed later rfl before
    obtain ⟨heard, goes⟩ := (proper.play earlier).step deed
    exact ⟨heard, goes.grown, goes.carries⟩
  · rw [same]
    exact d.transaction.committed_or_rolledBack
  · rw [same]
    exact d.transaction.begun_of_committed
  · intro ended deed
    rw [same] at ended
    have finished : d.transaction.isFinished := d.transaction.isFinished_iff.2 ended
    obtain ⟨unchanged, silent, refused⟩ := step_of_finished finished deed
    have stepped : f.step deed = (d.step deed).fields := by
      rw [same]
      exact FieldDealing.step_fields d deed
    rw [stepped, replied, same]
    exact ⟨unchanged, congrArg Transaction.fields unchanged, silent,
      fun asks => ⟨_, refused asks⟩⟩

end Dealing
end SessionPooling
