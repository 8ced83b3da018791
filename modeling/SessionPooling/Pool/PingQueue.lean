import SessionPooling.Session

/-! A queue of sessions in the order in which they fall due for a ping; of two that fall
due together the one stored first comes first. -/
namespace SessionPooling

/-- A stored session, when it falls due, and a number that grows from entry to entry. -/
structure PingEntry where
  due : Instant
  sequence : Nat
  session : Session
deriving DecidableEq

def PingEntry.NotAfter (a b : PingEntry) : Prop :=
  a.due.nanos < b.due.nanos ∨ a.due.nanos = b.due.nanos ∧ a.sequence ≤ b.sequence

instance (a b : PingEntry) : Decidable (a.NotAfter b) := inferInstanceAs (Decidable (_ ∨ _))

namespace PingEntry

theorem NotAfter.trans {a b c : PingEntry} (first : a.NotAfter b) (second : b.NotAfter c) :
    a.NotAfter c := by
  unfold NotAfter at *
  omega

theorem notAfter_total (a b : PingEntry) : a.NotAfter b ∨ b.NotAfter a := by
  unfold NotAfter
  omega

end PingEntry

abbrev InPingOrder (entries : List PingEntry) : Prop := entries.Pairwise PingEntry.NotAfter

/-- Puts an entry before the first that does not come before it. -/
def insertPingEntry (entry : PingEntry) : List PingEntry → List PingEntry
  | [] => [entry]
  | head :: rest =>
    if entry.NotAfter head then entry :: head :: rest else head :: insertPingEntry entry rest

theorem mem_insertPingEntry {x entry : PingEntry} {entries : List PingEntry} :
    x ∈ insertPingEntry entry entries ↔ x = entry ∨ x ∈ entries := by
  induction entries with
  | nil => simp [insertPingEntry]
  | cons head rest ih =>
    unfold insertPingEntry
    split
    · simp
    · simp only [List.mem_cons, ih]
      exact or_left_comm

theorem insertPingEntry_inPingOrder {entry : PingEntry} {entries : List PingEntry}
    (ordered : InPingOrder entries) : InPingOrder (insertPingEntry entry entries) := by
  induction entries with
  | nil => simp [insertPingEntry, InPingOrder]
  | cons head rest ih =>
    obtain ⟨first, tail⟩ := List.pairwise_cons.1 ordered
    unfold insertPingEntry
    split
    case isTrue before =>
      refine List.pairwise_cons.2 ⟨fun x hx => ?_, ordered⟩
      rcases List.mem_cons.1 hx with rfl | hx
      · exact before
      · exact before.trans (first x hx)
    case isFalse notBefore =>
      refine List.pairwise_cons.2 ⟨fun x hx => ?_, ih tail⟩
      rcases mem_insertPingEntry.1 hx with rfl | hx
      · exact (PingEntry.notAfter_total _ _).resolve_left notBefore
      · exact first x hx

structure PingQueue where
  /-- The entries, the one due first in front. -/
  entries : List PingEntry
  ordered : InPingOrder entries
deriving DecidableEq

namespace PingQueue

def empty : PingQueue := ⟨[], List.Pairwise.nil⟩

def size (queue : PingQueue) : Nat := queue.entries.length

def nextDue? (queue : PingQueue) : Option Instant := queue.entries.head?.map (·.due)

def insert (queue : PingQueue) (entry : PingEntry) : PingQueue :=
  ⟨insertPingEntry entry queue.entries, insertPingEntry_inPingOrder queue.ordered⟩

def pop? (queue : PingQueue) : Option (PingEntry × PingQueue) :=
  match queue with
  | ⟨[], _⟩ => none
  | ⟨entry :: rest, ordered⟩ => some (entry, ⟨rest, (List.pairwise_cons.1 ordered).2⟩)

def sessions (queue : PingQueue) : List Session := queue.entries.map (·.session)

/-- Putting the first entry back undoes taking it. -/
theorem insert_of_pop? {queue rest : PingQueue} {entry : PingEntry}
    (popped : queue.pop? = some (entry, rest)) : rest.insert entry = queue := by
  obtain ⟨entries, ordered⟩ := queue
  cases entries with
  | nil => simp [pop?] at popped
  | cons head tail =>
    simp only [pop?, Option.some.injEq, Prod.mk.injEq] at popped
    obtain ⟨rfl, rfl⟩ := popped
    have first := (List.pairwise_cons.1 ordered).1
    simp only [insert, PingQueue.mk.injEq]
    cases tail with
    | nil => rfl
    | cons next more => simp [insertPingEntry, first next List.mem_cons_self]

end PingQueue
end SessionPooling
