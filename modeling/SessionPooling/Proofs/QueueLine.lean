import SessionPooling.Proofs.PoolStore

/-! Waiting in a queue by due time. Whatever is done to such a queue, it comes down to two steps:
the entry in front leaves, or a session comes and gets the next number. So no two entries have the
same number; and while the clock does not go back, whoever comes waits behind all that are there. -/
namespace SessionPooling

theorem Instant.after_le_after {time later : Instant} (passed : time ≤ later) (d : Duration) :
    time.after d ≤ later.after d := by
  simp only [Instant.le_iff, Instant.nanos_after] at *
  omega

theorem Instant.le_after (time : Instant) (d : Duration) : time ≤ time.after d := by
  have inRange := time.inRange
  simp only [Instant.le_iff, Instant.nanos_after]
  omega

/-- An entry that comes after the first ones has its place among the others. -/
theorem insertPingEntry_append {entry : PingEntry} {entries : List PingEntry}
    (behind : ∀ e ∈ entries, ¬ entry.NotAfter e) (others : List PingEntry) :
    insertPingEntry entry (entries ++ others) = entries ++ insertPingEntry entry others := by
  induction entries with
  | nil => rfl
  | cons head rest ih =>
    obtain ⟨notBefore, behindRest⟩ := List.forall_mem_cons.1 behind
    rw [List.cons_append, insertPingEntry, if_neg notBefore, ih behindRest, List.cons_append]

/-- An entry that comes after all others is put at the end. -/
theorem insertPingEntry_last {entry : PingEntry} {entries : List PingEntry}
    (last : ∀ e ∈ entries, ¬ entry.NotAfter e) :
    insertPingEntry entry entries = entries ++ [entry] := by
  have placed := insertPingEntry_append last []
  rwa [List.append_nil] at placed

namespace PingingPool

/-- Entries that were made one after another in a stretch of time, under numbers from one on. -/
inductive Stamped (interval : Duration) : (sequence : Nat) → Instant → List PingEntry → Instant →
    Prop where
  | nil {sequence begun ended} (passed : begun ≤ ended) :
      Stamped interval sequence begun [] ended
  | cons {sequence begun time session rest ended} (later : begun ≤ time)
      (others : Stamped interval (sequence + 1) time rest ended) :
      Stamped interval sequence begun (⟨time.after interval, sequence, session⟩ :: rest) ended

namespace Stamped
variable {interval : Duration} {sequence : Nat} {begun ended : Instant} {entries : List PingEntry}

theorem le (stamped : Stamped interval sequence begun entries ended) : begun ≤ ended := by
  induction stamped with
  | nil passed => exact passed
  | cons later others ih => exact Int.le_trans later ih

theorem since {earlier : Instant} (stamped : Stamped interval sequence begun entries ended)
    (before : earlier ≤ begun) : Stamped interval sequence earlier entries ended := by
  cases stamped with
  | nil passed => exact .nil (Int.le_trans before passed)
  | cons later others => exact .cons (Int.le_trans before later) others

/-- Each entry falls due one interval after a time in that stretch. -/
theorem due_eq (stamped : Stamped interval sequence begun entries ended) :
    ∀ entry ∈ entries, ∃ time, begun ≤ time ∧ time ≤ ended ∧ entry.due = time.after interval ∧
      sequence ≤ entry.sequence := by
  induction stamped with
  | nil => exact List.forall_mem_nil _
  | @cons sequence begun time session rest ended later others ih =>
    refine List.forall_mem_cons.2 ⟨⟨time, later, others.le, rfl, Nat.le_refl _⟩, ?_⟩
    intro entry member
    obtain ⟨stored, after, earlier, due, numbered⟩ := ih entry member
    exact ⟨stored, Int.le_trans later after, earlier, due, Nat.le_of_succ_le numbered⟩

theorem sequences (stamped : Stamped interval sequence begun entries ended) :
    entries.map (·.sequence) = List.range' sequence entries.length := by
  induction stamped with
  | nil => rfl
  | cons later others ih => rw [List.map_cons, ih, List.length_cons, List.range'_succ]

theorem inOrder (stamped : Stamped interval sequence begun entries ended) :
    entries.Pairwise fun a b => ¬ b.NotAfter a := by
  induction stamped with
  | nil => exact .nil
  | @cons sequence begun time session rest ended later others ih =>
    refine List.pairwise_cons.2 ⟨fun entry member => ?_, ih⟩
    obtain ⟨stored, after, -, due, numbered⟩ := others.due_eq entry member
    have behind := Instant.after_le_after after interval
    rw [← due] at behind
    simp only [Instant.le_iff] at behind
    simp only [PingEntry.NotAfter]
    omega

end Stamped

/-- What becomes of a queue in a stretch of time, and the sessions that come meanwhile. -/
inductive Served : Instant → PingingPool → List Session → PingingPool → Instant → Prop where
  | done {begun pool ended} (passed : begun ≤ ended) : Served begun pool [] pool ended
  /-- The desk of the pool is another matter. -/
  | desk {begun pool come after ended} (desk : Desk)
      (others : Served begun { pool with desk } come after ended) :
      Served begun pool come after ended
  | leaves {begun pool entry queue come after ended}
      (popped : pool.queue.pop? = some (entry, queue))
      (others : Served begun { pool with queue } come after ended) :
      Served begun pool come after ended
  | comes {begun pool time session come after ended} (later : begun ≤ time)
      (others : Served time (pool.shelve time session) come after ended) :
      Served begun pool (session :: come) after ended

/-- No two entries have the same number, and later ones get higher numbers. -/
structure Numbered (pool : PingingPool) : Prop where
  distinct : (pool.queue.entries.map (·.sequence)).Nodup
  fewer : ∀ entry ∈ pool.queue.entries, entry.sequence < pool.nextSequence

/-- The entries stand in the order of their numbers, and none is due later than what is stored
from now on. -/
structure FirstCome (now : Instant) (pool : PingingPool) : Prop where
  inOrder : (pool.queue.entries.map (·.sequence)).Pairwise (· < ·)
  fewer : ∀ entry ∈ pool.queue.entries, entry.sequence < pool.nextSequence
  due : ∀ entry ∈ pool.queue.entries, entry.due ≤ now.after pool.pingInterval

section
variable {pool : PingingPool} {entry : PingEntry} {queue : PingQueue} {now time : Instant}

theorem numbered_of_empty (empty : pool.queue.entries = []) : pool.Numbered := by
  constructor
  · rw [empty]
    exact .nil
  · rw [empty]
    exact List.forall_mem_nil _

theorem firstCome_of_empty (empty : pool.queue.entries = []) : pool.FirstCome now := by
  refine ⟨?_, ?_, ?_⟩
  · rw [empty]
    exact .nil
  · rw [empty]
    exact List.forall_mem_nil _
  · rw [empty]
    exact List.forall_mem_nil _

theorem Numbered.leaves (numbered : pool.Numbered)
    (popped : pool.queue.pop? = some (entry, queue)) :
    ({ pool with queue } : PingingPool).Numbered := by
  obtain ⟨distinct, fewer⟩ := numbered
  rw [PingQueue.entries_of_pop? popped] at distinct fewer
  exact ⟨(List.nodup_cons.1 distinct).2, (List.forall_mem_cons.1 fewer).2⟩

theorem Numbered.shelve (numbered : pool.Numbered) (now : Instant) (session : Session) :
    (pool.shelve now session).Numbered := by
  have stored := PingQueue.insertPingEntry_perm
    ⟨now.after pool.pingInterval, pool.nextSequence, session⟩ pool.queue.entries
  constructor
  · refine ((stored.map _).nodup_iff).2 (List.nodup_cons.2 ⟨fun taken => ?_, numbered.distinct⟩)
    obtain ⟨other, member, same⟩ := List.mem_map.1 taken
    exact Nat.ne_of_lt (numbered.fewer other member) same
  · intro other member
    rcases mem_insertPingEntry.1 member with rfl | earlier
    · exact Nat.lt_succ_self _
    · exact Nat.lt_succ_of_lt (numbered.fewer other earlier)

theorem FirstCome.leaves (firstCome : pool.FirstCome now)
    (popped : pool.queue.pop? = some (entry, queue)) :
    ({ pool with queue } : PingingPool).FirstCome now := by
  obtain ⟨inOrder, fewer, due⟩ := firstCome
  rw [PingQueue.entries_of_pop? popped] at inOrder fewer due
  exact ⟨(List.pairwise_cons.1 inOrder).2, (List.forall_mem_cons.1 fewer).2,
    (List.forall_mem_cons.1 due).2⟩

theorem FirstCome.later (firstCome : pool.FirstCome now) (passed : now ≤ time) :
    pool.FirstCome time :=
  ⟨firstCome.inOrder, firstCome.fewer, fun entry member =>
    Int.le_trans (firstCome.due entry member) (Instant.after_le_after passed _)⟩

/-- Whoever comes waits behind all that are there, also where due times are the same. -/
theorem FirstCome.entries_shelve (firstCome : pool.FirstCome now) (session : Session) :
    (pool.shelve now session).queue.entries =
      pool.queue.entries ++ [⟨now.after pool.pingInterval, pool.nextSequence, session⟩] := by
  refine insertPingEntry_last fun entry member => ?_
  have fewer := firstCome.fewer entry member
  have due := firstCome.due entry member
  simp only [Instant.le_iff] at due
  simp only [PingEntry.NotAfter]
  omega

theorem FirstCome.shelve (firstCome : pool.FirstCome now) (session : Session) :
    (pool.shelve now session).FirstCome now := by
  have entries := firstCome.entries_shelve session
  refine ⟨?_, ?_, ?_⟩
  · rw [entries, List.map_append, List.pairwise_append]
    refine ⟨firstCome.inOrder, List.pairwise_singleton _ _, fun earlier member last same => ?_⟩
    obtain ⟨entry, stored, rfl⟩ := List.mem_map.1 member
    obtain rfl := List.mem_singleton.1 same
    exact firstCome.fewer entry stored
  · rw [entries]
    refine List.forall_mem_append.2 ⟨fun entry member => ?_, List.forall_mem_singleton.2 ?_⟩
    · exact Nat.lt_succ_of_lt (firstCome.fewer entry member)
    · exact Nat.lt_succ_self _
  · rw [entries]
    exact List.forall_mem_append.2 ⟨firstCome.due, List.forall_mem_singleton.2 (Int.le_refl _)⟩

end

namespace Served
variable {begun ended earlier : Instant} {pool after : PingingPool} {come : List Session}

theorem since (served : Served begun pool come after ended) (before : earlier ≤ begun) :
    Served earlier pool come after ended := by
  induction served with
  | done passed => exact .done (Int.le_trans before passed)
  | desk desk others ih => exact .desk desk (ih before)
  | leaves popped others ih => exact .leaves popped (ih before)
  | comes later others ih => exact .comes (Int.le_trans before later) others

theorem settings (served : Served begun pool come after ended) :
    after.size = pool.size ∧ after.pingInterval = pool.pingInterval := by
  induction served with
  | done => exact ⟨rfl, rfl⟩
  | desk desk others ih => exact ih
  | leaves popped others ih => exact ih
  | comes later others ih => exact ih

theorem numbered (served : Served begun pool come after ended) (numbered : pool.Numbered) :
    after.Numbered := by
  induction served with
  | done => exact numbered
  | desk desk others ih => exact ih ⟨numbered.distinct, numbered.fewer⟩
  | leaves popped others ih => exact ih (numbered.leaves popped)
  | comes later others ih => exact ih (numbered.shelve _ _)

/-- First come, first served: those who came last are still there, behind one another in the order
in which they came. -/
theorem firstCome (served : Served begun pool come after ended)
    (firstCome : pool.FirstCome begun) :
    after.FirstCome ended ∧ after.queue.sessions <:+ pool.queue.sessions ++ come := by
  induction served with
  | done passed => exact ⟨firstCome.later passed, List.append_nil _ ▸ List.suffix_rfl⟩
  | desk desk others ih => exact ih ⟨firstCome.inOrder, firstCome.fewer, firstCome.due⟩
  | leaves popped others ih =>
    obtain ⟨last, waiting⟩ := ih (firstCome.leaves popped)
    refine ⟨last, ?_⟩
    rw [PingQueue.sessions_of_pop? popped, List.cons_append]
    exact waiting.trans (List.suffix_cons _ _)
  | @comes begun pool time session come after ended later others ih =>
    have now := firstCome.later later
    obtain ⟨last, waiting⟩ := ih (now.shelve session)
    have behind : (pool.shelve time session).queue.sessions = pool.queue.sessions ++ [session] := by
      rw [PingQueue.sessions, now.entries_shelve, List.map_append]
      rfl
    refine ⟨last, ?_⟩
    rwa [behind, List.append_assoc] at waiting

end Served
end PingingPool
end SessionPooling
