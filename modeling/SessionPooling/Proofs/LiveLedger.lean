import Mathlib.Data.List.Nodup
import SessionPooling.Backend.Fleet
import SessionPooling.Proofs.MissingSessions
import SessionPooling.Proofs.PoolsInStep
import SessionPooling.Proofs.Provision

/-! Which sessions are live. A service in memory whose failures nobody arranges tells the truth:
what it says to be missing is not live, a session that it deleted is gone, and none comes to be
live but those whose names it gives out. So what is heard of it keeps the books of its sessions. -/
namespace SessionPooling

/-- The session that, by an exchange, is not there or no longer there. -/
def Exchange.missed? : Exchange → Option SessionId
  | ⟨_, .probe session, reply⟩ =>
    if Session.verdict reply = .ok false then some session else none
  | ⟨_, .ping session, .error e⟩ => if e.isNotFound then some session else none
  | ⟨_, .delete session, _⟩ => some session
  | _ => none

/-- An exchange that tells the truth of a service, on which some sessions were live before it and
some are after it. Exchanges with others change nothing there. -/
structure Exchange.Truthful (i : BackendId) (live : List SessionId) (exchange : Exchange)
    (after : List SessionId) : Prop where
  sourced : after ⊆ exchange.issued ++ live
  measured : exchange.measured
  missed : exchange.backend = i → ∀ session, exchange.missed? = some session → session ∉ after

theorem Exchange.Truthful.unchanged {i : BackendId} {live : List SessionId} {exchange : Exchange}
    (measured : exchange.measured)
    (missed : exchange.backend = i → ∀ session, exchange.missed? = some session → session ∉ live) :
    exchange.Truthful i live live :=
  ⟨List.subset_append_right _ _, measured, missed⟩

/-- What was heard, and the sessions that were live on a service before it and after it. -/
inductive Ledger (i : BackendId) : List SessionId → List Exchange → List SessionId → Prop where
  | nil {live} : Ledger i live [] live
  | cons {live mid after exchange heard} (truthful : exchange.Truthful i live mid)
      (rest : Ledger i mid heard after) : Ledger i live (exchange :: heard) after

namespace Ledger
variable {i : BackendId} {live mid after : List SessionId} {heard more : List Exchange}
  {exchange : Exchange}

theorem single (truthful : exchange.Truthful i live after) : Ledger i live [exchange] after :=
  .cons truthful .nil

theorem append (first : Ledger i live heard mid) (second : Ledger i mid more after) :
    Ledger i live (heard ++ more) after := by
  induction first with
  | nil => exact second
  | cons truthful rest ih => exact .cons truthful (ih second)

/-- The books of a while are those of its first part and of the rest. -/
theorem exists_mid (ledger : Ledger i live (heard ++ more) after) :
    ∃ mid, Ledger i live heard mid ∧ Ledger i mid more after := by
  induction heard generalizing live with
  | nil => exact ⟨live, .nil, ledger⟩
  | cons exchange heard ih =>
    cases ledger with
    | cons truthful rest =>
      obtain ⟨mid, first, second⟩ := ih rest
      exact ⟨mid, .cons truthful first, second⟩

theorem eq_of_nil (ledger : Ledger i live [] after) : after = live := by
  cases ledger
  rfl

theorem truthful (ledger : Ledger i live [exchange] after) : exchange.Truthful i live after := by
  cases ledger with
  | cons truthful rest =>
    rw [rest.eq_of_nil]
    exact truthful

theorem sourced (ledger : Ledger i live heard after) : after ⊆ idsIssued heard ++ live := by
  induction ledger with
  | nil => exact List.Subset.refl _
  | @cons live mid after exchange heard truthful rest ih =>
    intro session member
    rw [idsIssued, List.flatMap_cons, List.append_assoc, List.mem_append]
    obtain fresh | older := List.mem_append.1 (ih member)
    · exact .inr (List.mem_append_left _ fresh)
    · exact (List.mem_append.1 (truthful.sourced older)).imp_right (List.mem_append_right _)

theorem subset (ledger : Ledger i live heard after) (quiet : idsIssued heard = []) :
    after ⊆ live := by
  have sourced := ledger.sourced
  rw [quiet] at sourced
  exact sourced

theorem measured (ledger : Ledger i live heard after) : Desk.Measured heard := by
  induction ledger with
  | nil => exact List.forall_mem_nil _
  | cons truthful rest ih => exact List.forall_mem_cons.2 ⟨truthful.measured, ih⟩

end Ledger

namespace MemoryBackend

/-- The name of the session created as number `number`. -/
def nameOf (number : Nat) : SessionId := ⟨"session-" ++ Nat.repr number⟩

theorem nameOf_inj {number other : Nat} (same : nameOf number = nameOf other) :
    number = other := by
  have digits : Nat.toDigits 10 number = Nat.toDigits 10 other := by
    have spelled := (String.append_right_inj _).1 (congrArg SessionId.text same)
    rwa [Nat.repr_eq_ofList_toDigits, Nat.repr_eq_ofList_toDigits, String.ofList_inj] at spelled
  have read := congrArg (Nat.ofDigitChars 10 · 0) digits
  simpa only [Nat.ofDigitChars_ten_toDigits] using read

/-- Nobody arranged that a ping fails, and every live session has a name of its own. -/
structure Orderly (backend : MemoryBackend) : Prop where
  unhindered : backend.pingFailures = []
  nodup : backend.live.Nodup
  numbered : ∀ session ∈ backend.live, ∃ number ≤ backend.created, session = nameOf number

variable {backend : MemoryBackend}

theorem Orderly.fewer {other : MemoryBackend} (orderly : backend.Orderly)
    (unhindered : other.pingFailures = backend.pingFailures)
    (live : other.live.Sublist backend.live) (created : backend.created ≤ other.created) :
    other.Orderly := by
  refine ⟨unhindered.trans orderly.unhindered, orderly.nodup.sublist live, fun session member => ?_⟩
  obtain ⟨number, earlier, same⟩ := orderly.numbered session (live.subset member)
  exact ⟨number, Nat.le_trans earlier created, same⟩

/-- A new session gets a name that no live one has. -/
theorem Orderly.create (orderly : backend.Orderly) (template : Template) :
    (backend.create template).2.Orderly := by
  refine ⟨orderly.unhindered, List.nodup_cons.2 ⟨fun taken => ?_, orderly.nodup⟩, ?_⟩
  · obtain ⟨number, earlier, same⟩ := orderly.numbered _ taken
    have := nameOf_inj same
    omega
  · intro session member
    obtain rfl | older := List.mem_cons.1 member
    · exact ⟨backend.created + 1, Nat.le_refl _, rfl⟩
    · obtain ⟨number, earlier, same⟩ := orderly.numbered session older
      exact ⟨number, Nat.le_succ_of_le earlier, same⟩

theorem Orderly.createMany (template : Template) (count : Nat) :
    ∀ {backend : MemoryBackend}, backend.Orderly →
      (createMany template count backend).2.Orderly ∧
      (createMany template count backend).1.length = count ∧
      (createMany template count backend).2.live ⊆
        (createMany template count backend).1 ++ backend.live := by
  induction count with
  | zero => exact fun orderly => ⟨orderly, rfl, List.Subset.refl _⟩
  | succ count ih =>
    intro backend orderly
    obtain ⟨later, length, live⟩ := ih (orderly.create template)
    refine ⟨later, congrArg (· + 1) length, fun session member => ?_⟩
    exact (List.perm_middle.mem_iff).1 (live member)

/-- Nothing that counts for its sessions is different on the other service. -/
structure SameSessions (backend other : MemoryBackend) : Prop where
  pingFailures : other.pingFailures = backend.pingFailures
  live : other.live = backend.live
  created : other.created = backend.created

theorem Orderly.same {other : MemoryBackend} (orderly : backend.Orderly)
    (same : backend.SameSessions other) : other.Orderly :=
  orderly.fewer same.pingFailures (same.live ▸ .refl _) (Nat.le_of_eq same.created.symm)

theorem sameSessions_commit (backend : MemoryBackend) (session : SessionId)
    (transaction : TransactionId) (mutations : List Mutation) (now : Instant) :
    backend.SameSessions (backend.commit session transaction mutations now).2 := by
  unfold commit
  split
  · exact ⟨rfl, rfl, rfl⟩
  · dsimp only
    split
    · split <;> exact ⟨rfl, rfl, rfl⟩
    · exact ⟨rfl, rfl, rfl⟩

theorem sameSessions_begin (backend : MemoryBackend) (session : SessionId)
    (fresh : TransactionId) : backend.SameSessions (backend.begin session fresh).2 := by
  unfold begin
  split <;> exact ⟨rfl, rfl, rfl⟩

theorem sameSessions_rollback (backend : MemoryBackend) (session : SessionId)
    (transaction : TransactionId) :
    backend.SameSessions (backend.rollback session transaction).2 := by
  unfold rollback
  split <;> exact ⟨rfl, rfl, rfl⟩

theorem granted_le (backend : MemoryBackend) (count : Nat) : backend.granted count ≤ count := by
  unfold granted
  split
  · exact Nat.le_refl _
  · exact Nat.min_le_left _ _

/-- Whatever an orderly service is asked, it answers truthfully and stays orderly. -/
theorem Orderly.serve (orderly : backend.Orderly) (i : BackendId) (fresh : TransactionId)
    (now : Instant) (request : Request) :
    (backend.serve fresh now request).2.Orderly ∧
      Exchange.Truthful i backend.live ⟨i, request, (backend.serve fresh now request).1⟩
        (backend.serve fresh now request).2.live := by
  cases request with
  | batchCreate count template =>
    obtain ⟨later, length, live⟩ := orderly.createMany template (backend.granted count)
    refine ⟨later, live, decide_eq_true ?_, fun _ _ missed => by cases missed⟩
    exact Nat.le_trans (Nat.le_of_eq length) (backend.granted_le count)
  | create template =>
    exact ⟨orderly.create template, List.Subset.refl _, rfl, fun _ _ missed => by cases missed⟩
  | probe session =>
    refine ⟨orderly, .unchanged rfl fun _ other missed => ?_⟩
    simp only [Exchange.missed?, MemoryBackend.serve, verdict_probe] at missed
    split at missed
    next absent =>
      cases missed
      simpa [isLive] using absent
    · cases missed
  | ping session =>
    simp only [MemoryBackend.serve, ping, orderly.unhindered]
    refine ⟨orderly, .unchanged rfl fun _ other missed => ?_⟩
    unfold requireLive at missed
    split at missed
    · cases missed
    next absent =>
      cases missed
      exact absent
  | delete session =>
    refine ⟨orderly.fewer rfl List.erase_sublist (Nat.le_refl _), ?_, rfl,
      fun _ other missed => ?_⟩
    · exact List.Subset.trans List.erase_subset (List.subset_append_right _ _)
    · cases missed
      exact orderly.nodup.not_mem_erase
  | begin session =>
    have same := backend.sameSessions_begin session fresh
    exact ⟨orderly.same same, same.live ▸ .unchanged rfl fun _ _ missed => by cases missed⟩
  | commit session transaction mutations =>
    have same := backend.sameSessions_commit session transaction mutations now
    exact ⟨orderly.same same, same.live ▸ .unchanged rfl fun _ _ missed => by cases missed⟩
  | rollback session transaction =>
    have same := backend.sameSessions_rollback session transaction
    exact ⟨orderly.same same, same.live ▸ .unchanged rfl fun _ _ missed => by cases missed⟩

theorem Orderly.answer (orderly : backend.Orderly) (i : BackendId) (fresh : TransactionId)
    (now : Instant) (request : Request) :
    (backend.answer fresh now request).2.Orderly ∧
      Exchange.Truthful i backend.live ⟨i, request, (backend.answer fresh now request).1⟩
        (backend.answer fresh now request).2.live := by
  have received : ({ backend with received := request :: backend.received } :
      MemoryBackend).Orderly := orderly.same ⟨rfl, rfl, rfl⟩
  exact received.serve i fresh now request

theorem orderly_fresh (role : Option String) (batchLimit : Option Nat) (missingAsError : Bool) :
    (fresh role batchLimit missingAsError).Orderly :=
  ⟨rfl, List.nodup_nil, nofun⟩

theorem Orderly.expire (orderly : backend.Orderly) (session : SessionId) :
    (backend.expire session).Orderly ∧ (backend.expire session).live ⊆ backend.live :=
  ⟨orderly.fewer rfl List.erase_sublist (Nat.le_refl _), List.erase_subset⟩

end MemoryBackend

/-- Nothing is arranged to go wrong on the way to an orderly service. -/
structure FaultyBackend.Reliable (backend : FaultyBackend) : Prop where
  plan : backend.plan = []
  surplus : backend.surplus = 0
  inner : backend.inner.Orderly

theorem FaultyBackend.Reliable.answer {backend : FaultyBackend} (reliable : backend.Reliable)
    (i : BackendId) (fresh : TransactionId) (now : Instant) (request : Request) :
    (backend.answer fresh now request).2.Reliable ∧
      Exchange.Truthful i backend.inner.live ⟨i, request, (backend.answer fresh now request).1⟩
        (backend.answer fresh now request).2.inner.live := by
  obtain ⟨inner, plan, surplus⟩ := backend
  obtain ⟨rfl, rfl, orderly⟩ := reliable
  obtain ⟨later, truthful⟩ := orderly.answer i fresh now request
  cases request <;> exact ⟨⟨rfl, rfl, later⟩, truthful⟩

namespace Fleet

/-- The sessions that are live on a service. -/
def liveOn (i : BackendId) (fleet : Fleet) : List SessionId :=
  match fleet.backends[i]? with
  | none => []
  | some backend => backend.inner.live

def Reliable (fleet : Fleet) : Prop := ∀ backend ∈ fleet.backends, backend.Reliable

variable {fleet : Fleet} {i : BackendId}

theorem Reliable.nodup_liveOn (reliable : fleet.Reliable) (i : BackendId) :
    (fleet.liveOn i).Nodup := by
  unfold liveOn
  split
  · exact List.nodup_nil
  next backend found => exact (reliable backend (List.mem_of_getElem? found)).inner.nodup

/-- An exchange with one service leaves the others as they were. -/
theorem Reliable.answer (reliable : fleet.Reliable) (i j : BackendId) (request : Request)
    (now : Instant) :
    (answer j request now fleet).2.Reliable ∧
      Exchange.Truthful i (fleet.liveOn i) ⟨j, request, (Fleet.answer j request now fleet).1⟩
        ((Fleet.answer j request now fleet).2.liveOn i) := by
  cases found : fleet.backends[j]? with
  | none =>
    simp only [Fleet.answer, found]
    refine ⟨reliable, .unchanged ?_ ?_⟩
    · cases request <;> rfl
    · rintro rfl session -
      simp [liveOn, found]
  | some backend =>
    obtain ⟨later, truthful⟩ := (reliable backend (List.mem_of_getElem? found)).answer j
      fleet.freshTransaction now request
    obtain ⟨inRange, -⟩ := List.getElem?_eq_some_iff.1 found
    simp only [Fleet.answer, found]
    refine ⟨fun other member => ?_, ?_⟩
    · obtain older | rfl := List.mem_or_eq_of_mem_set member
      · exact reliable other older
      · exact later
    · by_cases here : j = i
      · subst here
        simpa only [liveOn, found, List.getElem?_set_self inRange] using truthful
      · simp only [liveOn, List.getElem?_set_ne here]
        exact ⟨List.subset_append_right _ _, truthful.measured, fun there => (here there).elim⟩

/-- A change to one service that lets it stay orderly and brings no session to life. -/
theorem Reliable.onMemory (reliable : fleet.Reliable) (i j : BackendId)
    {change : MemoryBackend → MemoryBackend} (keeps : ∀ backend : MemoryBackend,
      backend.Orderly → (change backend).Orderly ∧ (change backend).live ⊆ backend.live) :
    (fleet.onMemory j change).Reliable ∧ (fleet.onMemory j change).liveOn i ⊆ fleet.liveOn i := by
  constructor
  · intro backend member
    obtain ⟨k, found⟩ := List.mem_iff_getElem?.1 member
    rw [Fleet.onMemory, onBackend, List.getElem?_modify] at found
    obtain ⟨older, there, same⟩ := Option.map_eq_some_iff.1 found
    have was := reliable older (List.mem_of_getElem? there)
    split at same
    · subst same
      exact ⟨was.plan, was.surplus, (keeps _ was.inner).1⟩
    · subst same
      exact was
  · unfold liveOn Fleet.onMemory onBackend
    rw [List.getElem?_modify]
    cases there : fleet.backends[i]? with
    | none => exact List.Subset.refl _
    | some backend =>
      have was := reliable backend (List.mem_of_getElem? there)
      by_cases here : j = i
      · simpa [here] using (keeps _ was.inner).2
      · simp [here]

/-- The same records; since there were those of `before`, they keep the books of a service. -/
structure Booked (i : BackendId) (before : Recorder Fleet) (_ : Clock)
    (recorder other : Recorder Fleet) : Prop where
  same : recorder = other
  reliable : recorder.inner.Reliable
  ledger : ∃ heard, recorder.heard = before.heard ++ heard ∧
    Ledger i (before.inner.liveOn i) heard (recorder.inner.liveOn i)

theorem tellsAlike_booked (i : BackendId) (before : Recorder Fleet) :
    TellsAlike (Booked i before) := by
  constructor
  · rintro clock recorder _ ⟨rfl, -, -⟩ backend
    rfl
  · rintro clock recorder _ ⟨rfl, reliable, heard, grown, ledger⟩ backend request
    obtain ⟨later, truthful⟩ := reliable.answer i backend request clock.now
    refine ⟨.refl _ _, rfl, later, heard ++ [_], ?_, ledger.append (.single truthful)⟩
    rw [← List.append_assoc, ← grown]
    rfl
  · exact fun booked _ => ⟨booked.same, booked.reliable, booked.ledger⟩

end Fleet

/-- What was heard during work that goes alike wherever it is told the same keeps the books of
the services that it talked to. -/
theorem Act.Hears.booked {α : Type} {work : Act (Recorder Fleet) α}
    {P : α → List Exchange → Prop} (hears : work.Hears P) {env : Env (Recorder Fleet)}
    (i : BackendId) (reliable : env.service.inner.Reliable)
    (inStep : ∀ R, TellsAlike R → work.InStep R work Eq) :
    (work env).2.service.inner.Reliable ∧ ∃ heard, P (work env).1 heard ∧
      (work env).2.service.heard = env.service.heard ++ heard ∧
      Ledger i (env.service.inner.liveOn i) heard ((work env).2.service.inner.liveOn i) := by
  obtain ⟨heard, grown, holds⟩ := hears env
  have begun : env.Alike (Fleet.Booked i env.service) env :=
    ⟨rfl, rfl, reliable, [], (List.append_nil _).symm, .nil⟩
  obtain ⟨-, ended⟩ := inStep _ (Fleet.tellsAlike_booked i env.service) env env begun
  obtain ⟨-, later, more, same, ledger⟩ := ended.service
  obtain rfl := List.append_cancel_left (grown.symm.trans same)
  exact ⟨later, heard, holds, grown, ledger⟩

end SessionPooling
