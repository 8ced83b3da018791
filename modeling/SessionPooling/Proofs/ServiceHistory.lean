import Mathlib.Data.List.Induction
import SessionPooling.Backend.Memory

/-! The history of a service in memory: requests of whatever kind, with whatever names they come,
and sessions that expire and failures that are arranged in between. The open transactions are read
off a history: those that were issued, less those that a request on a live session has named since,
whether it was granted or not. -/
namespace SessionPooling

/-- The session and the transaction that a request to end one names. -/
def Request.ended? : Request → Option (SessionId × TransactionId)
  | .commit session transaction _ => some (session, transaction)
  | .rollback session transaction => some (session, transaction)
  | _ => none

namespace MemoryBackend

inductive Event where
  /-- A request that comes at a time; a transaction that it begins gets the name `fresh`. -/
  | request (request : Request) (fresh : TransactionId) (now : Instant)
  | expire (session : SessionId)
  | expireAll
  | failCommit (failure : ArrangedFailure)
  | failPing (failure : ArrangedFailure)

def Event.apply : Event → MemoryBackend → MemoryBackend
  | .request asked fresh now, backend => (backend.answer fresh now asked).2
  | .expire session, backend => backend.expire session
  | .expireAll, backend => backend.expireAll
  | .failCommit failure, backend => backend.failCommit failure
  | .failPing failure, backend => backend.failPing failure

def applyAll (events : List Event) (backend : MemoryBackend) : MemoryBackend :=
  events.foldl (fun backend event => event.apply backend) backend

/-- An event, and the service as it was when it happened. -/
structure Moment where
  before : MemoryBackend
  event : Event

namespace Moment

def after (m : Moment) : MemoryBackend := m.event.apply m.before

def reply? (m : Moment) : Option (Σ request : Request, request.Reply) :=
  match m.event with
  | .request request fresh now => some ⟨request, (m.before.answer fresh now request).1⟩
  | _ => none

/-- A transaction that is begun, and its session. -/
def issued? (m : Moment) : Option (TransactionId × SessionId) :=
  match m.event with
  | .request (.begin session) fresh now =>
    (m.before.answer fresh now (.begin session)).1.toOption.map fun transaction =>
      (transaction, session)
  | _ => none

/-- The transaction that a commit or a rollback names on a live session. -/
def closed? (m : Moment) : Option TransactionId :=
  match m.event with
  | .request request _ _ =>
    request.ended?.bind fun e => if e.1 ∈ m.before.live then some e.2 else none
  | _ => none

/-- A transaction that is committed, its session and its writes. -/
def applied? (m : Moment) : Option (TransactionId × SessionId × List Mutation) :=
  match m.event with
  | .request (.commit session transaction mutations) fresh now =>
    (m.before.answer fresh now (.commit session transaction mutations)).1.toOption.map fun _ =>
      (transaction, session, mutations)
  | _ => none

end Moment

def moments : List Event → MemoryBackend → List Moment
  | [], _ => []
  | event :: events, backend => ⟨backend, event⟩ :: moments events (event.apply backend)

/-! ### One event -/

/-- The service as it serves a request, which has been counted. -/
def counting (backend : MemoryBackend) (request : Request) : MemoryBackend :=
  { backend with received := request :: backend.received }

theorem transactions_createMany (template : Template) (count : Nat) (backend : MemoryBackend) :
    (createMany template count backend).2.transactions = backend.transactions := by
  induction count generalizing backend with
  | zero => rfl
  | succ count ih => exact ih _

theorem committed_createMany (template : Template) (count : Nat) (backend : MemoryBackend) :
    (createMany template count backend).2.committed = backend.committed := by
  induction count generalizing backend with
  | zero => rfl
  | succ count ih => exact ih _

section
variable {backend : MemoryBackend} {session : SessionId} {transaction : TransactionId}
  {mutations : List Mutation} {now time : Instant}

theorem requireLive_of_mem (live : session ∈ backend.live) :
    backend.requireLive session = .ok () := if_pos live

theorem requireLive_of_not_mem (gone : session ∉ backend.live) :
    backend.requireLive session = .error (.sessionNotFound session) := if_neg gone

/-- All ways in which a commit can go. -/
inductive Committing (backend : MemoryBackend) (session : SessionId)
    (transaction : TransactionId) (mutations : List Mutation) (now : Instant) :
    Except Failure Instant × MemoryBackend → Prop where
  | gone (dead : session ∉ backend.live) :
      Committing backend session transaction mutations now
        (.error (.sessionNotFound session), backend)
  | foreign (live : session ∈ backend.live)
      (other : lookup? transaction backend.transactions ≠ some session) :
      Committing backend session transaction mutations now
        (.error (notOpen session transaction), backend.close transaction)
  | failed {failure rest} (live : session ∈ backend.live)
      (own : lookup? transaction backend.transactions = some session)
      (arranged : backend.commitFailures = failure :: rest) :
      Committing backend session transaction mutations now
        (.error (failure.toFailure "commit"),
          { backend.close transaction with commitFailures := rest })
  | applied (live : session ∈ backend.live)
      (own : lookup? transaction backend.transactions = some session)
      (unhindered : backend.commitFailures = []) :
      Committing backend session transaction mutations now
        (.ok now,
          { backend.close transaction with
            committed := backend.committed ++ [(session, mutations)] })

theorem commit_committing (backend : MemoryBackend) (session : SessionId)
    (transaction : TransactionId) (mutations : List Mutation) (now : Instant) :
    Committing backend session transaction mutations now
      (backend.commit session transaction mutations now) := by
  unfold commit
  by_cases live : session ∈ backend.live
  · rw [requireLive_of_mem live]
    dsimp only
    split
    next own =>
      split
      next failure rest arranged => exact .failed live own arranged
      next unhindered => exact .applied live own unhindered
    next other => exact .foreign live other
  · rw [requireLive_of_not_mem live]
    exact .gone live

theorem commit_ok_iff (backend : MemoryBackend) :
    (backend.commit session transaction mutations now).1 = .ok time ↔
      time = now ∧ session ∈ backend.live ∧ backend.commitFailures = [] ∧
        lookup? transaction backend.transactions = some session := by
  have committing := commit_committing backend session transaction mutations now
  generalize backend.commit session transaction mutations now = r at committing
  cases committing with
  | gone dead => simp [dead]
  | foreign live other => simp [other]
  | failed live own arranged => simp [arranged]
  | applied live own unhindered => simp [live, own, unhindered, eq_comm]

theorem commit_of_not_mem (backend : MemoryBackend) (gone : session ∉ backend.live) :
    backend.commit session transaction mutations now =
      (.error (.sessionNotFound session), backend) := by
  unfold commit
  rw [requireLive_of_not_mem gone]

/-- On a live session, a transaction that is not its own is closed by a commit that is refused. -/
theorem commit_notOpen (backend : MemoryBackend) (live : session ∈ backend.live)
    (foreign : lookup? transaction backend.transactions ≠ some session) :
    backend.commit session transaction mutations now =
      (.error (notOpen session transaction), backend.close transaction) := by
  have committing := commit_committing backend session transaction mutations now
  generalize backend.commit session transaction mutations now = r at committing
  cases committing with
  | gone dead => exact absurd live dead
  | foreign live other => rfl
  | failed live own arranged => exact absurd own foreign
  | applied live own unhindered => exact absurd own foreign

theorem begin_of_mem (backend : MemoryBackend) (live : session ∈ backend.live)
    (fresh : TransactionId) :
    backend.begin session fresh =
      (.ok fresh, { backend with transactions := (fresh, session) :: backend.transactions }) := by
  unfold begin
  rw [requireLive_of_mem live]

theorem begin_of_not_mem (backend : MemoryBackend) (gone : session ∉ backend.live)
    (fresh : TransactionId) :
    backend.begin session fresh = (.error (.sessionNotFound session), backend) := by
  unfold begin
  rw [requireLive_of_not_mem gone]

theorem rollback_of_mem (backend : MemoryBackend) (live : session ∈ backend.live)
    (transaction : TransactionId) :
    backend.rollback session transaction = (.ok (), backend.close transaction) := by
  unfold rollback
  rw [requireLive_of_mem live]

theorem rollback_of_not_mem (backend : MemoryBackend) (gone : session ∉ backend.live)
    (transaction : TransactionId) :
    backend.rollback session transaction = (.error (.sessionNotFound session), backend) := by
  unfold rollback
  rw [requireLive_of_not_mem gone]

end

namespace Moment

/-- What a moment does to the open transactions and to the writes that are committed. -/
structure Books (m : Moment) : Prop where
  transactions : m.after.transactions =
    m.issued?.toList ++ m.before.transactions.filter fun t => m.closed? ≠ some t.1
  committed : m.after.committed = m.before.committed ++ (m.applied?.map Prod.snd).toList
  own : ∀ transaction session mutations, m.applied? = some (transaction, session, mutations) →
    m.closed? = some transaction ∧ lookup? transaction m.before.transactions = some session

section
variable {m : Moment} {after : MemoryBackend} {transaction : TransactionId}

theorem Books.unchanged (later : m.after = after)
    (transactions : after.transactions = m.before.transactions)
    (committed : after.committed = m.before.committed) (issued : m.issued? = none)
    (closed : m.closed? = none) (applied : m.applied? = none) : m.Books := by
  constructor
  · rw [later, transactions, issued, closed]
    exact (List.filter_eq_self.2 fun t _ => rfl).symm
  · rw [later, committed, applied]
    exact (List.append_nil _).symm
  · rw [applied]
    nofun

/-- A transaction is closed, and perhaps its writes are committed. -/
theorem Books.closing (later : m.after = after)
    (transactions : after.transactions = (m.before.close transaction).transactions)
    (issued : m.issued? = none) (closed : m.closed? = some transaction)
    (committed : after.committed = m.before.committed ++ (m.applied?.map Prod.snd).toList)
    (own : ∀ t session mutations, m.applied? = some (t, session, mutations) →
      t = transaction ∧ lookup? t m.before.transactions = some session) : m.Books := by
  constructor
  · rw [later, transactions, issued, closed]
    simp [close, eq_comm]
  · rw [later, committed]
  · intro t session mutations applied
    obtain ⟨rfl, owned⟩ := own t session mutations applied
    exact ⟨closed, owned⟩

/-- A transaction is closed, and no writes are committed. -/
theorem Books.closingOnly (later : m.after = after)
    (transactions : after.transactions = (m.before.close transaction).transactions)
    (committed : after.committed = m.before.committed) (issued : m.issued? = none)
    (closed : m.closed? = some transaction) (applied : m.applied? = none) : m.Books := by
  refine .closing later transactions issued closed ?_ ?_
  · rw [committed, applied]
    exact (List.append_nil _).symm
  · rw [applied]
    nofun

end

section
variable (before : MemoryBackend) (session : SessionId) (transaction : TransactionId)
  (mutations : List Mutation) (fresh : TransactionId) (now : Instant)

theorem issued?_of_mem (live : session ∈ before.live) :
    Moment.issued? ⟨before, .request (.begin session) fresh now⟩ = some (fresh, session) := by
  have answered : before.answer fresh now (.begin session) = _ :=
    begin_of_mem (before.counting _) live fresh
  unfold issued?
  dsimp only
  rw [answered]
  rfl

theorem issued?_of_not_mem (gone : session ∉ before.live) :
    Moment.issued? ⟨before, .request (.begin session) fresh now⟩ = none := by
  have answered : before.answer fresh now (.begin session) = _ :=
    begin_of_not_mem (before.counting _) gone fresh
  unfold issued?
  dsimp only
  rw [answered]
  rfl

theorem books_begin : Books ⟨before, .request (.begin session) fresh now⟩ := by
  let counted := before.counting (.begin session)
  by_cases live : session ∈ before.live
  · have later : Moment.after ⟨before, .request (.begin session) fresh now⟩ = _ :=
      congrArg Prod.snd (begin_of_mem counted live fresh)
    constructor
    · rw [later, issued?_of_mem before session fresh now live]
      exact congrArg (_ :: ·) (List.filter_eq_self.2 fun t _ => rfl).symm
    · rw [later]
      exact (List.append_nil _).symm
    · nofun
  · have later := congrArg Prod.snd (begin_of_not_mem counted live fresh)
    exact .unchanged later rfl rfl (issued?_of_not_mem before session fresh now live) rfl rfl

theorem books_rollback : Books ⟨before, .request (.rollback session transaction) fresh now⟩ := by
  let counted := before.counting (.rollback session transaction)
  by_cases live : session ∈ before.live
  · have later := congrArg Prod.snd (rollback_of_mem counted live transaction)
    exact .closingOnly later rfl rfl rfl (if_pos live) rfl
  · have later := congrArg Prod.snd (rollback_of_not_mem counted live transaction)
    exact .unchanged later rfl rfl rfl (if_neg live) rfl

theorem books_commit :
    Books ⟨before, .request (.commit session transaction mutations) fresh now⟩ := by
  let counted := before.counting (.commit session transaction mutations)
  have committing := commit_committing counted session transaction mutations now
  rcases answered : before.answer fresh now (.commit session transaction mutations)
    with ⟨reply, after⟩
  have committed : counted.commit session transaction mutations now = (reply, after) := answered
  rw [committed] at committing
  have later := congrArg Prod.snd committed
  have applied : Moment.applied?
      ⟨before, .request (.commit session transaction mutations) fresh now⟩ =
        reply.toOption.map fun _ => (transaction, session, mutations) := by
    unfold applied?
    dsimp only
    rw [answered]
  cases committing with
  | gone dead => exact .unchanged later rfl rfl rfl (if_neg dead) applied
  | foreign live other => exact .closingOnly later rfl rfl rfl (if_pos live) applied
  | failed live own arranged => exact .closingOnly later rfl rfl rfl (if_pos live) applied
  | applied live own unhindered =>
    refine .closing later rfl rfl (if_pos live) ?_ ?_
    · rw [applied]
      rfl
    · rw [applied]
      rintro t s w ⟨⟩
      exact ⟨rfl, own⟩

end

theorem books (m : Moment) : m.Books := by
  obtain ⟨before, event⟩ := m
  cases event with
  | request request fresh now =>
    cases request with
    | batchCreate count template =>
      exact .unchanged rfl (transactions_createMany template _ _)
        (committed_createMany template _ _) rfl rfl rfl
    | ping session =>
      refine .unchanged rfl ?_ ?_ rfl rfl rfl
      · simp only [after, Event.apply, answer, serve, ping]
        split <;> rfl
      · simp only [after, Event.apply, answer, serve, ping]
        split <;> rfl
    | begin session => exact books_begin before session fresh now
    | commit session transaction mutations =>
      exact books_commit before session transaction mutations fresh now
    | rollback session transaction => exact books_rollback before session transaction fresh now
    | _ => exact .unchanged rfl rfl rfl rfl rfl rfl
  | _ => exact .unchanged rfl rfl rfl rfl rfl rfl

/-- A moment at which a transaction is begun, or a request on a live session names it. -/
def Concerns (m : Moment) (transaction : TransactionId) : Prop :=
  m.closed? = some transaction ∨ ∃ session, m.issued? = some (transaction, session)

end Moment

theorem lookup?_close (backend : MemoryBackend) (closed sought : TransactionId) :
    lookup? sought (backend.close closed).transactions =
      if closed = sought then none else lookup? sought backend.transactions := by
  have filtered := lookup?_filter_ne sought (some closed) backend.transactions
  simpa [close, eq_comm] using filtered

namespace Moment

theorem lookup?_after (m : Moment) (transaction : TransactionId) :
    lookup? transaction m.after.transactions =
      (lookup? transaction m.issued?.toList).or
        (if m.closed? = some transaction then none
          else lookup? transaction m.before.transactions) := by
  rw [m.books.transactions, lookup?_append, lookup?_filter_ne]

/-- Who owns an open transaction is settled by the last moment that concerns it. -/
theorem lookup?_after_iff (m : Moment) (transaction : TransactionId) (session : SessionId) :
    lookup? transaction m.after.transactions = some session ↔
      m.issued? = some (transaction, session) ∨
        ¬ m.Concerns transaction ∧ lookup? transaction m.before.transactions = some session := by
  rw [lookup?_after, Concerns]
  cases m.issued? with
  | none => 
    by_cases closed : m.closed? = some transaction
    · simp [closed]
    · simp [closed]
  | some issued =>
    obtain ⟨t, s⟩ := issued
    by_cases here : t = transaction
    · simp [here]
    · by_cases closed : m.closed? = some transaction
      · simp [here, closed]
      · simp [here, closed]

end Moment

/-! ### Many events -/

variable {backend : MemoryBackend}

theorem applyAll_cons (event : Event) (events : List Event) (backend : MemoryBackend) :
    applyAll (event :: events) backend = applyAll events (event.apply backend) := rfl

theorem moments_append (events more : List Event) (backend : MemoryBackend) :
    moments (events ++ more) backend =
      moments events backend ++ moments more (applyAll events backend) := by
  induction events generalizing backend with
  | nil => rfl
  | cons event events ih => exact congrArg (_ :: ·) (ih _)

/-- Every moment has its own past, which it found as it was left. -/
theorem exists_past {events : List Event} {earlier later : List Moment} {m : Moment}
    (split : moments events backend = earlier ++ m :: later) :
    ∃ past, moments past backend = earlier ∧ applyAll past backend = m.before := by
  induction events generalizing backend earlier with
  | nil => cases earlier <;> cases split
  | cons event events ih =>
    cases earlier with
    | nil =>
      cases split
      exact ⟨[], rfl, rfl⟩
    | cons first earlier =>
      rw [moments, List.cons_append, List.cons.injEq] at split
      obtain ⟨rfl, split⟩ := split
      obtain ⟨past, rfl, same⟩ := ih split
      exact ⟨event :: past, rfl, same⟩

/-- A transaction that was begun on a session, and has not been concerned since. -/
def Outstanding (history : List Moment) (transaction : TransactionId) (session : SessionId) :
    Prop :=
  ∃ old issue since, history = old ++ issue :: since ∧
    issue.issued? = some (transaction, session) ∧ ∀ m ∈ since, ¬ m.Concerns transaction

theorem outstanding_concat_iff {history : List Moment} {m : Moment} {transaction : TransactionId}
    {session : SessionId} : Outstanding (history ++ [m]) transaction session ↔
      m.issued? = some (transaction, session) ∨
        ¬ m.Concerns transaction ∧ Outstanding history transaction session := by
  constructor
  · rintro ⟨old, issue, since, split, issued, quiet⟩
    obtain rfl | ⟨since, last, rfl⟩ := since.eq_nil_or_concat
    · obtain ⟨rfl, same⟩ := List.append_inj' split rfl
      cases same
      exact .inl issued
    · rw [List.concat_eq_append, ← List.cons_append, ← List.append_assoc] at split
      obtain ⟨rfl, same⟩ := List.append_inj' split rfl
      cases same
      refine .inr ⟨quiet m (by simp), old, issue, since, rfl, issued, fun other member => ?_⟩
      exact quiet other (by simp [member])
  · rintro (issued | ⟨quiet, old, issue, since, rfl, issued, others⟩)
    · exact ⟨history, m, [], rfl, issued, List.forall_mem_nil _⟩
    · refine ⟨old, issue, since ++ [m], by simp, issued, fun other member => ?_⟩
      obtain before | here := List.mem_append.1 member
      · exact others other before
      · exact List.mem_singleton.1 here ▸ quiet

/-- The open transactions are read off the history. -/
theorem lookup?_applyAll_iff (none : backend.transactions = []) (events : List Event)
    (transaction : TransactionId) (session : SessionId) :
    lookup? transaction (applyAll events backend).transactions = some session ↔
      Outstanding (moments events backend) transaction session := by
  induction events using List.reverseRecOn with
  | nil =>
    refine ⟨fun found => ?_, fun ⟨old, issue, since, split, _⟩ => ?_⟩
    · rw [applyAll, List.foldl_nil, none] at found
      cases found
    · cases old <;> cases split
  | append_singleton events event ih =>
    rw [moments_append, applyAll, List.foldl_append]
    exact ((⟨applyAll events backend, event⟩ : Moment).lookup?_after_iff transaction session).trans
      ((or_congr_right (and_congr_right fun _ => ih)).trans outstanding_concat_iff.symm)

end MemoryBackend
end SessionPooling
