import SessionPooling.Proofs.Recorder
import SessionPooling.Retry.Executor

/-! Work for an executor, written out as what it does with its transaction. A script may choose
what to do next by every reply that it got and by what the program keeps for itself, which
outlives the attempt; so what it does in one attempt may depend on all attempts before. What the
script of each attempt offered to its transaction, and how it ended, goes into a diary. -/
namespace SessionPooling

/-- What work does with the transaction that it is given, step by step. Only scripts that may
commit by themselves have the step for it. -/
inductive Script (commits : Bool) (κ α : Type) where
  | finish (outcome : Outcome α)
  | begin (next : Except Failure TransactionId → Script commits κ α)
  | buffer (mutation : Mutation) (next : Except Failure Unit → Script commits κ α)
  | rollback (next : Except Failure Unit → Script commits κ α)
  | commit (allowed : commits = true) (next : Except Failure Instant → Script commits κ α)
  /-- Looks at what the program keeps for itself, and changes it. -/
  | consult (change : κ → κ) (next : κ → Script commits κ α)
  /-- Looks at the clock, and moves it. -/
  | moveClock (change : Clock → Clock) (next : Instant → Script commits κ α)

/-- What the work of one attempt did. -/
structure Page (α : Type) where
  attempt : Nat
  /-- Every write that it offered to its transaction, oldest first. -/
  buffered : List Mutation
  outcome : Outcome α

/-- What a program keeps for itself, and a page for each attempt of its work, oldest first. -/
structure Diary (κ α : Type) where
  own : κ
  pages : List (Page α)

namespace Script
variable {commits : Bool} {σ κ α : Type}

def consultOwn (change : κ → κ) : Sys σ (Diary κ α) κ := fun sys =>
  (sys.own.own, { sys with own := { sys.own with own := change sys.own.own } })

def lookAndMove (change : Clock → Clock) : Sys σ (Diary κ α) Instant := fun sys =>
  (sys.env.clock.now, { sys with env := { sys.env with clock := change sys.env.clock } })

def note (page : Page α) : Sys σ (Diary κ α) Unit := fun sys =>
  ((), { sys with own := { sys.own with pages := sys.own.pages ++ [page] } })

variable [Service σ]

/-- Does what a script says to a transaction, and collects the writes that it offers. -/
def perform : Script commits κ α → Transaction → List Mutation →
    Sys σ (Diary κ α) (Outcome α × Transaction × List Mutation)
  | finish outcome, t, buffered => pure (outcome, t, buffered)
  | begin next, t, buffered => do
    let (reply, t) ← Sys.act t.begin
    (next reply).perform t buffered
  | buffer mutation next, t, buffered =>
    let (reply, t) := t.buffer mutation
    (next reply).perform t (buffered ++ [mutation])
  | rollback next, t, buffered => do
    let (reply, t) ← Sys.act t.rollback
    (next reply).perform t buffered
  | commit _ next, t, buffered => do
    let (reply, t) ← Sys.act t.commit
    (next reply).perform t buffered
  | consult change next, t, buffered => do
    let own ← consultOwn change
    (next own).perform t buffered
  | moveClock change next, t, buffered => do
    let now ← lookAndMove change
    (next now).perform t buffered

/-- The work that follows in each attempt the script of its number. -/
def work (scripts : Nat → Script commits κ α) : Executor.Work σ (Diary κ α) α :=
  fun attempt t => do
    let (outcome, t, buffered) ← (scripts attempt).perform t []
    note ⟨attempt, buffered, outcome⟩
    pure (outcome, t)

end Script

namespace Sys
variable {σ κ α β γ : Type}

/-- However things stand, `P` relates the result of the work to what is heard during it and the
pages written meanwhile, each put behind what there was before. -/
def TellsAfter (work : Sys (Recorder σ) (Diary κ α) β) (before : List Exchange)
    (written : List (Page α)) (P : β → List Exchange → List (Page α) → Prop) : Prop :=
  ∀ sys, ∃ heard pages, (work sys).2.env.service.heard = sys.env.service.heard ++ heard ∧
    (work sys).2.own.pages = sys.own.pages ++ pages ∧
    P (work sys).1 (before ++ heard) (written ++ pages)

abbrev Tells (work : Sys (Recorder σ) (Diary κ α) β)
    (P : β → List Exchange → List (Page α) → Prop) : Prop :=
  work.TellsAfter [] [] P

namespace TellsAfter
variable {work : Sys (Recorder σ) (Diary κ α) β} {next : β → Sys (Recorder σ) (Diary κ α) γ}
  {before : List Exchange} {written : List (Page α)}
  {P Q : β → List Exchange → List (Page α) → Prop} {R : γ → List Exchange → List (Page α) → Prop}

theorem pure (holds : P b before written) :
    TellsAfter (Pure.pure b : Sys (Recorder σ) (Diary κ α) β) before written P := by
  refine fun _ => ⟨[], [], (List.append_nil _).symm, (List.append_nil _).symm, ?_⟩
  rw [List.append_nil, List.append_nil]
  exact holds

theorem bind (first : work.Tells P)
    (rest : ∀ b heard pages, P b heard pages →
      (next b).TellsAfter (before ++ heard) (written ++ pages) R) :
    TellsAfter (work >>= next) before written R := by
  intro sys
  obtain ⟨heard, pages, grown, pagesGrown, holds⟩ := first sys
  obtain ⟨more, morePages, grownMore, pagesGrownMore, holdsMore⟩ :=
    rest _ heard pages holds (work sys).2
  refine ⟨heard ++ more, pages ++ morePages, ?_, ?_, ?_⟩
  · rw [← List.append_assoc, ← grown]
    exact grownMore
  · rw [← List.append_assoc, ← pagesGrown]
    exact pagesGrownMore
  · rw [← List.append_assoc, ← List.append_assoc]
    exact holdsMore

theorem mono (tells : work.Tells P)
    (weaker : ∀ b heard pages, P b heard pages → Q b (before ++ heard) (written ++ pages)) :
    work.TellsAfter before written Q := by
  intro sys
  obtain ⟨heard, pages, grown, pagesGrown, holds⟩ := tells sys
  exact ⟨heard, pages, grown, pagesGrown, weaker _ _ _ holds⟩

theorem silently
    (silent : ∀ sys, (work sys).2.env.service.heard = sys.env.service.heard ∧
      (work sys).2.own.pages = sys.own.pages)
    (rest : ∀ b, (next b).TellsAfter before written R) :
    TellsAfter (work >>= next) before written R := by
  intro sys
  obtain ⟨heard, pages, grown, pagesGrown, holds⟩ := rest (work sys).1 (work sys).2
  exact ⟨heard, pages, grown.trans (congrArg (· ++ heard) (silent sys).1),
    pagesGrown.trans (congrArg (· ++ pages) (silent sys).2), holds⟩

/-- Work outside writes no page. -/
theorem ofAct {act : Act (Recorder σ) β} {P : β → List Exchange → Prop} (hears : act.Hears P) :
    (Sys.act (κ := Diary κ α) act).Tells fun b heard pages => pages = [] ∧ P b heard := by
  intro sys
  obtain ⟨heard, grown, holds⟩ := hears sys.env
  exact ⟨heard, [], grown, (List.append_nil _).symm, rfl, holds⟩

end TellsAfter
end Sys
end SessionPooling
