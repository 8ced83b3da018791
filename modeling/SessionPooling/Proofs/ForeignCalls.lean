import SessionPooling.Proofs.ServiceHistory

/-! Requests that name a transaction of another session. Two services are compared, one of which
has lost some open transactions of the other: as long as nobody commits what was lost, they give the
same answers. A request on a session that is not live loses nothing. One on a live session loses the
transaction that it names, although it is not its own. -/
namespace SessionPooling.MemoryBackend
variable {backend other : MemoryBackend}

/-- The same service, as far as its open transactions and the requests so far do not count. -/
def withBooks (backend : MemoryBackend) (transactions : List (TransactionId × SessionId))
    (received : List Request) : MemoryBackend :=
  { backend with transactions, received }

/-- The transaction that an event is to commit, and the session that it names. -/
def Event.commits? : Event → Option (TransactionId × SessionId)
  | .request (.commit session transaction _) _ _ => some (transaction, session)
  | _ => none

/-- The replies to all requests. -/
def answers (events : List Event) (backend : MemoryBackend) :
    List (Σ request : Request, request.Reply) :=
  (moments events backend).filterMap Moment.reply?

section
variable (backend : MemoryBackend) (transactions : List (TransactionId × SessionId))
  (received : List Request) (fresh : TransactionId) (now : Instant)

theorem createMany_withBooks (template : Template) (count : Nat) :
    createMany template count (backend.withBooks transactions received) =
      ((createMany template count backend).1,
        (createMany template count backend).2.withBooks transactions received) := by
  induction count generalizing backend with
  | zero => rfl
  | succ count ih =>
    simp only [createMany]
    rw [show (backend.withBooks transactions received).create template =
      ((backend.create template).1,
        (backend.create template).2.withBooks transactions received) from rfl, ih]

theorem begin_withBooks (session : SessionId) :
    ∃ left, (backend.withBooks transactions received).begin session fresh =
      ((backend.begin session fresh).1,
        (backend.begin session fresh).2.withBooks left received) := by
  by_cases live : session ∈ backend.live
  · refine ⟨(fresh, session) :: transactions, ?_⟩
    simp [begin, requireLive, withBooks, live]
  · refine ⟨transactions, ?_⟩
    simp [begin, requireLive, withBooks, live]

theorem rollback_withBooks (session : SessionId) (transaction : TransactionId) :
    ∃ left, (backend.withBooks transactions received).rollback session transaction =
      ((backend.rollback session transaction).1,
        (backend.rollback session transaction).2.withBooks left received) := by
  by_cases live : session ∈ backend.live
  · refine ⟨transactions.filter fun t => t.1 ≠ transaction, ?_⟩
    simp [rollback, requireLive, withBooks, close, live]
  · refine ⟨transactions, ?_⟩
    simp [rollback, requireLive, withBooks, live]

theorem commit_withBooks {session : SessionId} {transaction : TransactionId}
    (same : lookup? transaction transactions = some session ↔
      lookup? transaction backend.transactions = some session) (mutations : List Mutation) :
    ∃ left, (backend.withBooks transactions received).commit session transaction mutations now =
      ((backend.commit session transaction mutations now).1,
        (backend.commit session transaction mutations now).2.withBooks left received) := by
  by_cases live : session ∈ backend.live
  · refine ⟨transactions.filter fun t => t.1 ≠ transaction, ?_⟩
    by_cases own : lookup? transaction backend.transactions = some session
    · cases arranged : backend.commitFailures with
      | nil => simp [commit, requireLive, withBooks, close, live, own, same.2 own, arranged]
      | cons failure rest =>
        simp [commit, requireLive, withBooks, close, live, own, same.2 own, arranged]
    · simp [commit, requireLive, withBooks, close, live, own, mt same.1 own]
  · refine ⟨transactions, ?_⟩
    simp [commit, requireLive, withBooks, live]

/-- A service answers alike, whatever transactions are open on it, but for a commit. -/
theorem answer_withBooks (request : Request)
    (same : ∀ session transaction mutations, request = .commit session transaction mutations →
      (lookup? transaction transactions = some session ↔
        lookup? transaction backend.transactions = some session)) :
    ∃ left heard, (backend.withBooks transactions received).answer fresh now request =
      ((backend.answer fresh now request).1,
        (backend.answer fresh now request).2.withBooks left heard) := by
  let counted := backend.counting request
  cases request with
  | batchCreate count template =>
    refine ⟨transactions, .batchCreate count template :: received, ?_⟩
    have created := createMany_withBooks counted transactions
      (.batchCreate count template :: received) template (backend.granted count)
    exact congrArg (fun r : List SessionId × MemoryBackend => (Except.ok r.1, r.2)) created
  | create template => exact ⟨transactions, _ :: received, rfl⟩
  | probe session => exact ⟨transactions, _ :: received, rfl⟩
  | ping session =>
    refine ⟨transactions, .ping session :: received, ?_⟩
    simp only [answer, serve, ping, withBooks]
    cases backend.pingFailures with
    | nil => rfl
    | cons failure rest => rfl
  | delete session => exact ⟨transactions, _ :: received, rfl⟩
  | begin session =>
    obtain ⟨left, begun⟩ :=
      begin_withBooks counted transactions (.begin session :: received) fresh session
    exact ⟨left, _, begun⟩
  | commit session transaction mutations =>
    obtain ⟨left, committed⟩ := commit_withBooks counted transactions
      (.commit session transaction mutations :: received) now (same _ _ _ rfl) mutations
    exact ⟨left, _, committed⟩
  | rollback session transaction =>
    obtain ⟨left, rolledBack⟩ := rollback_withBooks counted transactions
      (.rollback session transaction :: received) session transaction
    exact ⟨left, _, rolledBack⟩

end

/-- The other service differs only in what it was asked, and in lacking open transactions that may
be lost. -/
structure Alike (lost : TransactionId → SessionId → Prop) (backend other : MemoryBackend) :
    Prop where
  same : other = backend.withBooks other.transactions other.received
  lookup : ∀ transaction,
    lookup? transaction other.transactions = lookup? transaction backend.transactions ∨
    ∃ session, lost transaction session ∧
      lookup? transaction backend.transactions = some session ∧
      lookup? transaction other.transactions = none

section
variable {lost : TransactionId → SessionId → Prop}

theorem Alike.lookup_iff (alike : Alike lost backend other) {transaction : TransactionId}
    {session : SessionId} (kept : ¬ lost transaction session) :
    lookup? transaction other.transactions = some session ↔
      lookup? transaction backend.transactions = some session := by
  obtain same | ⟨owner, gone, found, missing⟩ := alike.lookup transaction
  · rw [same]
  · have another : owner ≠ session := fun same => kept (same ▸ gone)
    simp [found, missing, another]

/-- The same name is given out and the same name is closed, so what was lost stays lost at most. -/
theorem Alike.lookup_after (alike : Alike lost backend other) {event : Event}
    (issued : Moment.issued? ⟨other, event⟩ = Moment.issued? ⟨backend, event⟩)
    (closed : Moment.closed? ⟨other, event⟩ = Moment.closed? ⟨backend, event⟩)
    (transaction : TransactionId) :
    lookup? transaction (event.apply other).transactions =
        lookup? transaction (event.apply backend).transactions ∨
      ∃ session, lost transaction session ∧
        lookup? transaction (event.apply backend).transactions = some session ∧
        lookup? transaction (event.apply other).transactions = none := by
  have mine : lookup? transaction (event.apply backend).transactions = _ :=
    Moment.lookup?_after ⟨backend, event⟩ transaction
  have theirs : lookup? transaction (event.apply other).transactions = _ :=
    Moment.lookup?_after ⟨other, event⟩ transaction
  rw [issued, closed] at theirs
  cases begun : lookup? transaction (Moment.issued? ⟨backend, event⟩).toList with
  | some session =>
    rw [begun, Option.some_or] at mine theirs
    exact .inl (theirs.trans mine.symm)
  | none =>
    rw [begun, Option.none_or] at mine theirs
    by_cases ended : Moment.closed? ⟨backend, event⟩ = some transaction
    · rw [if_pos ended] at mine theirs
      exact .inl (theirs.trans mine.symm)
    · rw [if_neg ended] at mine theirs
      rw [mine, theirs]
      exact alike.lookup transaction

/-- One event is met alike, and leaves the services alike. -/
theorem Alike.apply (alike : Alike lost backend other) (event : Event)
    (kept : ∀ transaction session, event.commits? = some (transaction, session) →
      ¬ lost transaction session) :
    Moment.reply? ⟨other, event⟩ = Moment.reply? ⟨backend, event⟩ ∧
      Alike lost (event.apply backend) (event.apply other) := by
  have live : other.live = backend.live := congrArg (·.live) alike.same
  cases event with
  | request request fresh now =>
    obtain ⟨left, heard, same⟩ :=
      answer_withBooks backend other.transactions other.received fresh now request (by
        rintro session transaction mutations rfl
        exact alike.lookup_iff (kept transaction session rfl))
    have answered : other.answer fresh now request = _ :=
      (congrArg (·.answer fresh now request) alike.same).trans same
    have reply : (other.answer fresh now request).1 = (backend.answer fresh now request).1 :=
      (congrArg Prod.fst answered :)
    have after : (other.answer fresh now request).2 = _ := congrArg Prod.snd answered
    refine ⟨congrArg (fun reply => some (Sigma.mk request reply)) reply, ?_,
      alike.lookup_after ?_ ?_⟩
    · show (other.answer fresh now request).2 = (backend.answer fresh now request).2.withBooks
        (other.answer fresh now request).2.transactions
        (other.answer fresh now request).2.received
      rw [after]
      rfl
    · cases request with
      | begin session =>
        exact congrArg (fun reply : Except Failure TransactionId =>
          reply.toOption.map fun transaction => (transaction, session)) reply
      | _ => rfl
    · simp only [Moment.closed?, live]
  | expire session => exact ⟨rfl, congrArg (·.expire session) alike.same, alike.lookup⟩
  | expireAll => exact ⟨rfl, congrArg (·.expireAll) alike.same, alike.lookup⟩
  | failCommit failure => exact ⟨rfl, congrArg (·.failCommit failure) alike.same, alike.lookup⟩
  | failPing failure => exact ⟨rfl, congrArg (·.failPing failure) alike.same, alike.lookup⟩

theorem Alike.answers (alike : Alike lost backend other) (events : List Event)
    (kept : ∀ event ∈ events, ∀ transaction session,
      event.commits? = some (transaction, session) → ¬ lost transaction session) :
    answers events other = answers events backend ∧
      Alike lost (applyAll events backend) (applyAll events other) := by
  induction events generalizing backend other with
  | nil => exact ⟨rfl, alike⟩
  | cons event events ih =>
    obtain ⟨first, kept⟩ := List.forall_mem_cons.1 kept
    obtain ⟨reply, later⟩ := alike.apply event first
    obtain ⟨replies, final⟩ := ih later kept
    refine ⟨?_, final⟩
    unfold MemoryBackend.answers at replies ⊢
    rw [moments, moments, List.filterMap_cons, List.filterMap_cons, reply, replies]

end

/-- The name that a begin would give out. -/
def Event.begins? : Event → Option TransactionId
  | .request (.begin _) fresh _ => some fresh
  | _ => none

section
variable {session foreign : SessionId} {transaction : TransactionId} {events : List Event}

theorem Moment.begins?_of_issued? {m : Moment} (begun : m.issued? = some (transaction, session)) :
    m.event.begins? = some transaction := by
  obtain ⟨before, event⟩ := m
  cases event with
  | request request fresh now =>
    cases request with
    | begin other =>
      by_cases live : other ∈ before.live
      · rw [issued?_of_mem _ _ _ _ live] at begun
        cases begun
        rfl
      · rw [issued?_of_not_mem _ _ _ _ live] at begun
        cases begun
    | _ => cases begun
  | _ => cases begun

theorem event_mem {m : Moment} (member : m ∈ moments events backend) : m.event ∈ events := by
  induction events generalizing backend with
  | nil => cases member
  | cons event events ih =>
    obtain rfl | later := List.mem_cons.1 member
    · exact List.mem_cons_self
    · exact List.mem_cons_of_mem _ (ih later)

/-- What is not open, and is not begun, does not come to be open. -/
theorem lookup?_applyAll_none (gone : lookup? transaction backend.transactions = none)
    (unbegun : ∀ event ∈ events, event.begins? ≠ some transaction) :
    lookup? transaction (applyAll events backend).transactions = none := by
  induction events generalizing backend with
  | nil => exact gone
  | cons event events ih =>
    obtain ⟨first, unbegun⟩ := List.forall_mem_cons.1 unbegun
    refine ih ?_ unbegun
    refine Option.eq_none_iff_forall_ne_some.2 fun owner found => ?_
    obtain begun | ⟨-, earlier⟩ :=
      (Moment.lookup?_after_iff ⟨backend, event⟩ transaction owner).1 found
    · exact first (Moment.begins?_of_issued? begun)
    · cases gone.symm.trans earlier

/-- What is open stays open until something concerns it. -/
theorem lookup?_applyAll_of_quiet (own : lookup? transaction backend.transactions = some session)
    (quiet : ∀ m ∈ moments events backend, ¬ m.Concerns transaction) :
    lookup? transaction (applyAll events backend).transactions = some session := by
  induction events generalizing backend with
  | nil => exact own
  | cons event events ih =>
    obtain ⟨first, quiet⟩ := List.forall_mem_cons.1 quiet
    exact ih ((Moment.lookup?_after_iff ⟨backend, event⟩ transaction session).2
      (.inr ⟨first, own⟩)) quiet

/-- All that a request to end a transaction of another session does. -/
theorem answer_foreign {request : Request} (fresh : TransactionId) (now : Instant)
    (own : lookup? transaction backend.transactions = some session)
    (ends : request.ended? = some (foreign, transaction)) (apart : foreign ≠ session) :
    (foreign ∉ backend.live → (backend.answer fresh now request).2 = backend.counting request) ∧
      (foreign ∈ backend.live →
        (backend.answer fresh now request).2 = (backend.counting request).close transaction) := by
  let counted (request : Request) := backend.counting request
  have notOwn : lookup? transaction backend.transactions ≠ some foreign :=
    fun same => apart (Option.some.inj (same.symm.trans own))
  cases request with
  | commit named t mutations =>
    cases ends
    exact ⟨fun dead => congrArg Prod.snd (commit_of_not_mem (counted _) dead),
      fun live => congrArg Prod.snd (commit_notOpen (counted _) live notOwn)⟩
  | rollback named t =>
    cases ends
    exact ⟨fun dead => congrArg Prod.snd (rollback_of_not_mem (counted _) dead _),
      fun live => congrArg Prod.snd (rollback_of_mem (counted _) live _)⟩
  | _ => cases ends

/-- What requests to end a transaction of another session do. On a session that is not live they do
nothing: all later answers are the same. On a live session, such a commit is refused, such a
rollback is not, and the transaction is closed either way; every other transaction and everything
else stays as it was, and all later answers are the same up to the first commit of the transaction
on its own session. That commit is refused, as long as the name is not given out again; without the
request from outside, it succeeds if nobody else has named the transaction and no failure is
arranged. -/
theorem foreign_end_closes (fresh : TransactionId) (now : Instant)
    (own : lookup? transaction backend.transactions = some session) (apart : foreign ≠ session) :
    (∀ mutations, foreign ∈ backend.live →
      (backend.answer fresh now (.commit foreign transaction mutations)).1 =
          .error (notOpen foreign transaction) ∧
        (backend.answer fresh now (.rollback foreign transaction)).1 = .ok ()) ∧
    ∀ request : Request, request.ended? = some (foreign, transaction) →
      let after := (backend.answer fresh now request).2
      (foreign ∉ backend.live → after = backend.counting request ∧
        ∀ events, answers events after = answers events backend) ∧
      (foreign ∈ backend.live → after = (backend.counting request).close transaction ∧
        (∀ t, lookup? t after.transactions =
          if transaction = t then none else lookup? t backend.transactions) ∧
        ∀ events, (∀ event ∈ events, event.commits? ≠ some (transaction, session)) →
          answers events after = answers events backend ∧
          let undisturbed := applyAll events backend
          let disturbed := applyAll events after
          ((∀ event ∈ events, event.begins? ≠ some transaction) → session ∈ undisturbed.live →
            ∀ mutations name time,
              (disturbed.answer name time (.commit session transaction mutations)).1 =
                  .error (notOpen session transaction) ∧
                ((∀ m ∈ moments events backend, m.closed? ≠ some transaction) →
                  undisturbed.commitFailures = [] →
                  (undisturbed.answer name time (.commit session transaction mutations)).1 =
                    .ok time))) := by
  have notOwn : lookup? transaction backend.transactions ≠ some foreign :=
    fun same => apart (Option.some.inj (same.symm.trans own))
  refine ⟨fun mutations live => ⟨?_, ?_⟩, fun request ends => ⟨fun dead => ?_, fun live => ?_⟩⟩
  · exact congrArg Prod.fst (commit_notOpen (backend.counting _) live notOwn)
  · exact congrArg Prod.fst (rollback_of_mem (backend.counting _) live transaction)
  · have after := (answer_foreign fresh now own ends apart).1 dead
    have alike : Alike (fun _ _ => False) backend (backend.counting request) :=
      ⟨rfl, fun t => .inl rfl⟩
    rw [after]
    exact ⟨rfl, fun events => (alike.answers events fun _ _ _ _ _ => not_false).1⟩
  · have after := (answer_foreign fresh now own ends apart).2 live
    rw [after]
    have lookup := lookup?_close (backend.counting request) transaction
    refine ⟨rfl, lookup, fun events kept => ?_⟩
    have alike : Alike (fun t s => (t, s) = (transaction, session)) backend
        ((backend.counting request).close transaction) := by
      refine ⟨rfl, fun t => ?_⟩
      by_cases here : transaction = t
      · subst here
        exact .inr ⟨session, rfl, own, (lookup transaction).trans (if_pos rfl)⟩
      · exact .inl ((lookup t).trans (if_neg here))
    obtain ⟨replies, final⟩ := alike.answers events fun event member t s named lost =>
      kept event member (named.trans (congrArg some lost))
    refine ⟨replies, fun unbegun stays mutations name time => ⟨?_, fun quiet unhindered => ?_⟩⟩
    · have live : session ∈ (applyAll events _).live :=
        (congrArg (session ∈ ·.live) final.same).mpr stays
      have gone := lookup?_applyAll_none ((lookup transaction).trans (if_pos rfl)) unbegun
      have missing := Option.eq_none_iff_forall_ne_some.1 gone session
      exact congrArg Prod.fst
        (commit_notOpen (MemoryBackend.counting _ _) live missing)
    · have stillOwn := lookup?_applyAll_of_quiet own fun m member concerned => by
        obtain closed | ⟨owner, begun⟩ := concerned
        · exact quiet m member closed
        · exact unbegun _ (event_mem member) (Moment.begins?_of_issued? begun)
      exact (commit_ok_iff (MemoryBackend.counting _ _)).2
        ⟨rfl, stays, unhindered, stillOwn⟩

/-- A commit on the second session, and then one on the first, which began the transaction. -/
theorem foreign_end_closes_of_commit :
    let now : Instant := ⟨0, by decide⟩
    let one : SessionId := ⟨"session-1"⟩
    let two : SessionId := ⟨"session-2"⟩
    let begun : TransactionId := ⟨"txn-1"⟩
    let backend := applyAll
      [.request (.batchCreate 2 .empty) begun now, .request (.begin one) begun now]
      (fresh none none false)
    let after := (backend.answer begun now (.commit two begun [])).2
    let events : List Event := [.request (.ping one) begun now, .failPing (.conflict none)]
    (lookup? begun backend.transactions = some one ∧ two ≠ one ∧ two ∈ backend.live) ∧
      answers events after = answers events backend ∧
      ((applyAll events after).answer begun now (.commit one begun [])).1 =
        .error (notOpen one begun) ∧
      ((applyAll events backend).answer begun now (.commit one begun [])).1 = .ok now := by
  intro now one two begun backend after events
  have own : lookup? begun backend.transactions = some one := by decide +kernel
  have apart : two ≠ one := by decide
  have live : two ∈ backend.live := by decide +kernel
  have stays : one ∈ (applyAll events backend).live := by decide +kernel
  have quiet : ∀ m ∈ moments events backend, m.closed? ≠ some begun := by decide +kernel
  obtain ⟨-, ended⟩ := foreign_end_closes begun now own apart
  obtain ⟨-, -, later⟩ := (ended (.commit two begun []) rfl).2 live
  obtain ⟨replies, last⟩ := later events (by decide)
  obtain ⟨refused, succeeds⟩ := last (by decide) stays [] begun now
  exact ⟨⟨own, apart, live⟩, replies, refused, succeeds quiet rfl⟩

/-- A session disturbs a transaction of another one, by a commit that is refused and by a rollback
alike: the commit of the transaction on its own session would have succeeded. -/
theorem foreign_commit_disturbs :
    let now : Instant := ⟨0, by decide⟩
    let one : SessionId := ⟨"session-1"⟩
    let two : SessionId := ⟨"session-2"⟩
    let begun : TransactionId := ⟨"txn-1"⟩
    let backend := applyAll
      [.request (.batchCreate 2 .empty) begun now, .request (.begin one) begun now]
      (fresh none none false)
    let commit (backend : MemoryBackend) : Option Instant :=
      (backend.commit one begun [] now).1.toOption
    (lookup? begun backend.transactions = some one ∧ two ≠ one) ∧
      commit backend = some now ∧
      lookup? begun (backend.answer begun now (.commit two begun [])).2.transactions = none ∧
      commit (backend.answer begun now (.commit two begun [])).2 = none ∧
      commit (backend.answer begun now (.rollback two begun)).2 = none := by
  decide +kernel

end

end SessionPooling.MemoryBackend
