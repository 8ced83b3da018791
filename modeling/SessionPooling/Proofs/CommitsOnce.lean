import Mathlib.Data.List.Nodup
import SessionPooling.Proofs.ServiceHistory

/-! Every transaction is committed at most once, and only on its own session. A commit that succeeds
closes a transaction that was open, and what is open was begun; so as long as no name is given out
twice, the commits are no more than the begins, for each name and for all of them together. -/
namespace SessionPooling.MemoryBackend
variable {backend : MemoryBackend}

/-! ### Counting -/

/-- The entries whose names are of some kind. -/
def tally {ν : Type} (kind : TransactionId → Bool) (entries : List (TransactionId × ν)) : Nat :=
  entries.countP fun e => kind e.1

section
variable {ν : Type} (kind : TransactionId → Bool)

theorem tally_append (entries more : List (TransactionId × ν)) :
    tally kind (entries ++ more) = tally kind entries + tally kind more :=
  List.countP_append

/-- To drop a name that is there is to drop an entry of its kind. -/
theorem tally_filter_ne {transaction : TransactionId} {value : ν}
    {entries : List (TransactionId × ν)} (member : (transaction, value) ∈ entries)
    (ofKind : kind transaction) :
    tally kind (entries.filter fun e => some transaction ≠ some e.1) + 1 ≤ tally kind entries := by
  have parts : tally kind entries = _ := List.countP_eq_countP_filter_add entries
    (fun e => kind e.1) fun e => decide (some transaction ≠ some e.1)
  have dropped : 0 < (entries.filter fun e => !decide (some transaction ≠ some e.1)).countP
      fun e => kind e.1 :=
    List.countP_pos_iff.2 ⟨_, List.mem_filter.2 ⟨member, by simp⟩, ofKind⟩
  rw [parts]
  exact Nat.add_le_add_left dropped _

/-- What a moment commits was open before, and is so no longer. -/
theorem Moment.tally_after_le (m : Moment) :
    tally kind m.applied?.toList + tally kind m.after.transactions ≤
      tally kind m.issued?.toList + tally kind m.before.transactions := by
  rw [m.books.transactions, tally_append]
  have fewer : tally kind (m.before.transactions.filter fun t => m.closed? ≠ some t.1) ≤
      tally kind m.before.transactions := List.filter_sublist.countP_le
  cases applied : m.applied? with
  | none =>
    have nothing : tally kind ([] : List (TransactionId × SessionId × List Mutation)) = 0 := rfl
    rw [Option.toList_none, nothing]
    omega
  | some commit =>
    obtain ⟨transaction, session, mutations⟩ := commit
    obtain ⟨closed, own⟩ := m.books.own _ _ _ applied
    by_cases ofKind : kind transaction
    · have dropped := tally_filter_ne kind (mem_of_lookup? own) ofKind
      have single : tally kind [(transaction, session, mutations)] = 1 := by simp [tally, ofKind]
      rw [Option.toList_some, single, closed]
      omega
    · have single : tally kind [(transaction, session, mutations)] = 0 := by simp [tally, ofKind]
      rw [Option.toList_some, single]
      omega

theorem filterMap_cons_toList {α β : Type} (f : α → Option β) (a : α) (as : List α) :
    (a :: as).filterMap f = (f a).toList ++ as.filterMap f := by
  cases same : f a with
  | none => rw [List.filterMap_cons_none same, Option.toList_none, List.nil_append]
  | some b => rw [List.filterMap_cons_some same, Option.toList_some, List.singleton_append]

theorem tally_applied_le (events : List Event) (backend : MemoryBackend) :
    tally kind ((moments events backend).filterMap Moment.applied?) +
        tally kind (applyAll events backend).transactions ≤
      tally kind ((moments events backend).filterMap Moment.issued?) +
        tally kind backend.transactions := by
  induction events generalizing backend with
  | nil => exact Nat.le_refl _
  | cons event events ih =>
    have first : tally kind _ + tally kind (event.apply backend).transactions ≤
        tally kind _ + tally kind backend.transactions :=
      Moment.tally_after_le kind ⟨backend, event⟩
    have rest := ih (event.apply backend)
    rw [moments, applyAll_cons, filterMap_cons_toList, filterMap_cons_toList, tally_append,
      tally_append]
    omega

end

theorem callsOf_answer (fresh : TransactionId) (now : Instant) (request : Request)
    (kind : RequestKind) : (backend.answer fresh now request).2.callsOf kind =
      backend.callsOf kind + if request.kind = kind then 1 else 0 := by
  rw [callsOf, received_answer, List.countP_cons]
  simp [callsOf]

/-- Every transaction that is begun takes a call. -/
theorem Moment.issued?_length_le (m : Moment) :
    m.issued?.toList.length + m.before.callsOf .begin ≤ m.after.callsOf .begin := by
  obtain ⟨before, event⟩ := m
  cases event with
  | request request fresh now =>
    have counted : (Moment.after ⟨before, .request request fresh now⟩).callsOf .begin = _ :=
      callsOf_answer fresh now request .begin
    rw [counted]
    cases request with
    | begin session =>
      have one : (Moment.issued? ⟨before, .request (.begin session) fresh now⟩).toList.length ≤ 1 :=
        Option.length_toList_le
      rw [Nat.add_comm]
      exact Nat.add_le_add_left one _
    | _ => exact Nat.le_of_eq (Nat.zero_add _)
  | _ => exact Nat.le_of_eq (Nat.zero_add _)

theorem issued_length_le (events : List Event) (backend : MemoryBackend) :
    ((moments events backend).filterMap Moment.issued?).length + backend.callsOf .begin ≤
      (applyAll events backend).callsOf .begin := by
  induction events generalizing backend with
  | nil => exact Nat.le_of_eq (Nat.zero_add _)
  | cons event events ih =>
    have first : _ + backend.callsOf .begin ≤ (event.apply backend).callsOf .begin :=
      Moment.issued?_length_le ⟨backend, event⟩
    have rest := ih (event.apply backend)
    rw [moments, applyAll_cons, filterMap_cons_toList, List.length_append]
    omega

theorem committed_applyAll (events : List Event) (backend : MemoryBackend) :
    (applyAll events backend).committed = backend.committed ++
      ((moments events backend).filterMap Moment.applied?).map Prod.snd := by
  induction events generalizing backend with
  | nil => exact (List.append_nil _).symm
  | cons event events ih =>
    have first : (event.apply backend).committed = _ :=
      (Moment.books ⟨backend, event⟩).committed
    have toList (applied : Option (TransactionId × SessionId × List Mutation)) :
        (applied.map Prod.snd).toList = applied.toList.map Prod.snd := by
      cases applied <;> rfl
    rw [moments, filterMap_cons_toList, List.map_append, ← List.append_assoc, ← toList, ← first]
    exact ih _

/-! ### Histories of a service -/

/-- The names that are given out, in their order. -/
def namesIssued (history : List Moment) : List TransactionId :=
  (history.filterMap Moment.issued?).map Prod.fst

/-- The names of the transactions that are committed, in their order. -/
def namesCommitted (history : List Moment) : List TransactionId :=
  (history.filterMap Moment.applied?).map Prod.fst

theorem nodup_namesCommitted {history : List Moment}
    (kept : ∀ kind, tally kind (history.filterMap Moment.applied?) ≤
      tally kind (history.filterMap Moment.issued?))
    (distinct : (namesIssued history).Nodup) : (namesCommitted history).Nodup := by
  refine List.nodup_iff_count_le_one.2 fun transaction => ?_
  have count {ν : Type} (entries : List (TransactionId × ν)) :
      (entries.map Prod.fst).count transaction = tally (· == transaction) entries :=
    List.countP_map
  have once := List.nodup_iff_count_le_one.1 distinct transaction
  rw [namesIssued, count] at once
  rw [namesCommitted, count]
  exact Nat.le_trans (kept _) once

/-- What becomes of transactions, whatever a service has met so far. As long as no name is given out
twice, a commit succeeds just if its session is live, no failure is arranged, and the transaction
was begun on this session and since then neither a commit nor a rollback has named it on a live
session. Each transaction is committed at most once. A commit that succeeds adds its session and its
writes to those before it, nothing else changes them, and they are never more than the calls of
begin. -/
theorem commits_once (role : Option String) (batchLimit : Option Nat) (missingAsError : Bool)
    (events : List Event) :
    let start := fresh role batchLimit missingAsError
    let history := moments events start
    let final := applyAll events start
    (namesIssued history).Nodup →
      (∀ earlier m later session transaction mutations name now,
        history = earlier ++ m :: later →
        m.event = .request (.commit session transaction mutations) name now →
        let reply := (m.before.answer name now (.commit session transaction mutations)).1
        ∀ time : Instant, reply = .ok time ↔ time = now ∧ session ∈ m.before.live ∧
          m.before.commitFailures = [] ∧ Outstanding earlier transaction session) ∧
      (∀ m ∈ history,
        m.after.committed = m.before.committed ++ (m.applied?.map Prod.snd).toList) ∧
      final.committed = (history.filterMap Moment.applied?).map Prod.snd ∧
      (namesCommitted history).Nodup ∧
      final.committed.length ≤ final.callsOf .begin := by
  intro start history final distinct
  have kept (kind : TransactionId → Bool) : tally kind (history.filterMap Moment.applied?) ≤
      tally kind (history.filterMap Moment.issued?) :=
    Nat.le_of_add_right_le (tally_applied_le kind events start)
  have log : final.committed = (history.filterMap Moment.applied?).map Prod.snd :=
    (committed_applyAll events start).trans (List.nil_append _)
  refine ⟨?_, fun m _ => m.books.committed, log, nodup_namesCommitted kept distinct, ?_⟩
  · intro earlier m later session transaction mutations name now split event reply time
    obtain ⟨past, rfl, reached⟩ := exists_past split
    rw [← lookup?_applyAll_iff rfl, reached]
    exact commit_ok_iff _
  · have all := kept fun _ => true
    have calls := issued_length_le events start
    rw [log, List.length_map]
    simp only [tally, List.countP_true] at all
    exact Nat.le_trans all (Nat.le_of_add_right_le calls)

/-- A commit that failed by arrangement is not made good by another one. -/
theorem commits_once_of_failure :
    let now : Instant := ⟨0, by decide⟩
    let start := fresh none none false
    let one : SessionId := ⟨"session-1"⟩
    let other : SessionId := ⟨"session-2"⟩
    let done : TransactionId := ⟨"txn-1"⟩
    let failed : TransactionId := ⟨"txn-2"⟩
    let past : List Event :=
      [.request (.batchCreate 2 .empty) done now, .request (.begin one) done now,
        .request (.begin other) failed now, .request (.commit one done []) done now,
        .failCommit (.conflict none), .request (.commit other failed []) done now]
    let again : Event := .request (.commit other failed []) done now
    let met := applyAll past start
    let history := moments (past ++ [again]) start
    (namesIssued history).Nodup ∧ namesIssued history = [done, failed] ∧
      namesCommitted history = [done] ∧
      (other ∈ met.live ∧ met.commitFailures = [] ∧
        ¬ Outstanding (moments past start) failed other) ∧
      (applyAll (past ++ [again]) start).committed.length ≤
        (applyAll (past ++ [again]) start).callsOf .begin := by
  intro now start one other done failed past again met history
  have names : namesIssued history = [done, failed] := by decide +kernel
  have distinct : (namesIssued history).Nodup := names ▸ by decide
  have live : other ∈ met.live := by decide +kernel
  have unhindered : met.commitFailures = [] := by decide +kernel
  let last : Moment := ⟨met, again⟩
  have refused : (last.before.answer done now (.commit other failed [])).1.toOption.isNone := by
    decide +kernel
  obtain ⟨succeeds, -, -, -, few⟩ := commits_once none none false (past ++ [again]) distinct
  refine ⟨distinct, names, by decide +kernel, ⟨live, unhindered, fun begun => ?_⟩, few⟩
  have ok := (succeeds (moments past start) last [] other failed [] done now
    (moments_append past [again] start) rfl now).2 ⟨rfl, live, unhindered, begun⟩
  rw [ok] at refused
  cases refused

/-- Who guesses a name before it is given out does not hinder its commit later. -/
theorem commits_after_guess :
    let now : Instant := ⟨0, by decide⟩
    let start := fresh none none false
    let session : SessionId := ⟨"session-1"⟩
    let transaction : TransactionId := ⟨"txn-1"⟩
    let commit : Request := .commit session transaction []
    let past : List Event :=
      [.request (.create .empty) transaction now, .request commit transaction now,
        .request (.begin session) transaction now]
    let history := moments (past ++ [.request commit transaction now]) start
    (namesIssued history).Nodup ∧
      (∃ m ∈ moments past start, m.event = .request commit transaction now ∧
        m.closed? = some transaction) ∧
      ((applyAll past start).answer transaction now commit).1 = .ok now ∧
      namesCommitted history = [transaction] := by
  intro now start session transaction commit past history
  have names : namesIssued history = [transaction] := by decide +kernel
  let guess : Moment := ⟨applyAll (past.take 1) start, .request commit transaction now⟩
  have among : guess ∈ moments past start := List.mem_cons_of_mem _ List.mem_cons_self
  have live : session ∈ (applyAll past start).live := by decide +kernel
  have unhindered : (applyAll past start).commitFailures = [] := by decide +kernel
  have own : lookup? transaction (applyAll past start).transactions = some session := by
    decide +kernel
  refine ⟨names ▸ List.nodup_singleton transaction, ⟨guess, among, rfl, by decide +kernel⟩, ?_, ?_⟩
  · exact (commit_ok_iff _).2 ⟨rfl, live, unhindered, own⟩
  · decide +kernel

end SessionPooling.MemoryBackend
