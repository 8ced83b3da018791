import Mathlib.Data.List.Nodup
import SessionPooling.Backend.Fleet
import SessionPooling.Proofs.Lending

/-! One owner each. As long as the services give no name twice, the sessions that a pool of any
kind stores and those that its callers hold are all different, however the run goes. -/
namespace SessionPooling.Lending
variable {σ : Type} [Service σ]

/-- Where all owned sessions are different, the one that was just taken is no other. -/
theorem taken_apart {l : Lending σ} {timeout : Option Duration} {session : Session}
    (distinct : ((l.step (.get timeout)).owned.map Session.id?).Nodup)
    (got : (l.pool.get timeout l.env).1.1 = .ok session) :
    session.id? ∉ l.held.map Session.id? ∧
      session.id? ∉ (l.step (.get timeout)).pool.sessions.map Session.id? := by
  have holds : (l.step (.get timeout)).held = l.held ++ [session] := by
    change l.held ++ Pool.leaving (l.pool.get timeout l.env).1.1 = _
    rw [got]
    rfl
  rw [owned, holds, List.map_append, List.map_append] at distinct
  obtain ⟨-, apart, away⟩ := List.nodup_append.1 distinct
  obtain ⟨-, -, heldApart⟩ := List.nodup_append.1 apart
  constructor
  · exact fun member => heldApart _ member _ (List.mem_singleton_self _) rfl
  · intro member
    exact away _ member _ (List.mem_append_right _ (List.mem_singleton_self _)) rfl

section
variable (parts : PoolParts) (clock : Clock) (services : σ) (ops : List (Op σ))

/-- The names of the owned sessions are among those that were given out, each once. -/
theorem names_subperm :
    (((start parts clock services).play ops).owned.map Session.id?).Subperm
      ((idsIssued ((start parts clock services).play ops).heard).map some) := by
  obtain ⟨heard, grown, turnover⟩ := play_turnover ops (start parts clock services)
  have empty : (start parts clock services).owned = [] := by
    obtain ⟨kind, _⟩ := parts
    cases kind <;> rfl
  have names := turnover.sourced
  rw [empty] at names
  rw [grown]
  exact names

theorem names_nodup
    (neverTwice : (idsIssued ((start parts clock services).play ops).heard).Nodup) :
    (((start parts clock services).play ops).owned.map Session.id?).Nodup := by
  obtain ⟨names, same, inside⟩ := names_subperm parts clock services ops
  have distinct := neverTwice.map fun _ _ => Option.some.inj
  exact same.nodup_iff.1 (distinct.sublist inside)

/-- As long as no name is given twice, all sessions that the pool stores or callers hold are
different; so what is taken from the pool is neither held by anyone nor still in the pool. -/
theorem play_owns_distinct
    (neverTwice : (idsIssued ((start parts clock services).play ops).heard).Nodup) :
    (((start parts clock services).play ops).owned.map Session.id?).Nodup ∧
    (∀ session ∈ ((start parts clock services).play ops).owned,
      ∃ id ∈ idsIssued ((start parts clock services).play ops).heard, session.id? = some id) ∧
    ∀ earlier timeout later session, ops = earlier ++ .get timeout :: later →
      let before := (start parts clock services).play earlier
      (before.pool.get timeout before.env).1.1 = .ok session →
        session.id? ∉ before.held.map Session.id? ∧
        session.id? ∉ (before.step (.get timeout)).pool.sessions.map Session.id? := by
  refine ⟨names_nodup parts clock services ops neverTwice, fun session member => ?_, ?_⟩
  · have named := (names_subperm parts clock services ops).subset (List.mem_map_of_mem member)
    obtain ⟨id, issued, same⟩ := List.mem_map.1 named
    exact ⟨id, issued, same.symm⟩
  · rintro earlier timeout later session rfl before got
    have split : (start parts clock services).play (earlier ++ .get timeout :: later) =
        ((start parts clock services).play (earlier ++ [.get timeout])).play later := by
      rw [← play_append, List.append_assoc]
      rfl
    obtain ⟨more, grown⟩ :=
      ((start parts clock services).play (earlier ++ [.get timeout])).heard_prefix_play later
    rw [split, ← grown, idsIssued_append] at neverTwice
    have distinct := names_nodup parts clock services (earlier ++ [.get timeout])
      (neverTwice.sublist (List.sublist_append_left _ _))
    rw [play_append] at distinct
    exact taken_apart distinct got

end

/-- A session that is found gone while another is out is replaced under a name of its own. -/
theorem play_owns_distinct_of_replaced :
    let parts := PoolParts.ofConfig { PoolConfig.standard with kind := .bursty, size := 2 }
    let begun := start parts .running (Fleet.ofBackends [.reliable (.fresh none none false) 0])
    let ops : List (Op Fleet) := [.bind 0, .get none, .get none, .put 0,
      .outside (Fleet.onMemory 0 MemoryBackend.expireAll), .get none]
    (idsIssued (begun.play ops).heard).Nodup ∧
      ((begun.play ops).owned.map Session.id?).Nodup := by
  intro parts begun ops
  have neverTwice : (idsIssued (begun.play ops).heard).Nodup := by
    decide +kernel
  exact ⟨neverTwice, (play_owns_distinct parts _ _ ops neverTwice).1⟩

end SessionPooling.Lending
