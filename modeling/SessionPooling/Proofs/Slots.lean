import SessionPooling.Backend.Fleet
import SessionPooling.Proofs.Lending

/-! Where the places of a pool go. Once a pool that keeps to its capacity is filled, every place
is taken by a session that is stored or out, but for one with each session that was gone and
could not be replaced; nothing else loses a place, and whatever is held is taken back. -/
namespace SessionPooling

namespace Lending
variable {σ : Type} [Service σ]

/-- Every one of so many places is accounted for. -/
structure Conserved (places : Nat) (l : Lending σ) : Prop where
  isBounded : l.pool.bounded
  capacity : l.pool.capacity = places
  sound : l.Sound
  counted : l.pool.desk.checkedOut = l.held.length
  taken : l.owned.length + creationsRefused l.heard = places

variable {places : Nat}

theorem Conserved.step {l : Lending σ} (conserved : l.Conserved places) {op : Op σ}
    (notBind : ¬ op.IsBind) (notClear : ¬ op.IsClear) : (l.step op).Conserved places := by
  obtain ⟨isBounded, capacity, sound, counted, taken⟩ := conserved
  obtain ⟨heard, stepped⟩ := l.step_stepped op
  -- What is lost at this step is what could not be replaced, as the pool is sound before it.
  have balance := stepped.turnover.exact ⟨isBounded, notBind⟩ ⟨sound, notClear⟩
  have same := stepped.kin.capacity.trans capacity
  have refused : creationsRefused (l.step op).heard =
      creationsRefused l.heard + creationsRefused heard := by
    rw [stepped.grown, creationsRefused_append]
  refine ⟨stepped.kin.bounded.trans isBounded, same, ⟨?_, ?_, ?_⟩,
    stepped.counted isBounded sound counted, ?_⟩
  · rw [stepped.backend notBind]
    exact sound.bound
  · omega
  · exact stepped.turnover.born sound.born
  · omega

theorem Conserved.play (ops : List (Op σ)) :
    ∀ {l : Lending σ}, l.Conserved places → (∀ op ∈ ops, ¬ op.IsBind ∧ ¬ op.IsClear) →
      (l.play ops).Conserved places := by
  induction ops with
  | nil => exact fun conserved _ => conserved
  | cons op ops ih =>
    intro l conserved plain
    obtain ⟨notBind, notClear⟩ := plain op List.mem_cons_self
    exact ih (conserved.step notBind notClear) fun op member =>
      plain op (List.mem_cons_of_mem _ member)

/-- A new pool that was filled has a session in every place. -/
theorem bind_conserved (parts : PoolParts) (clock : Clock) (services : σ) (backend : BackendId)
    (notBursty : parts.kind ≠ .bursty)
    (filled : (parts.pool.bind backend (start parts clock services).env).1.1 = .ok ()) :
    ((start parts clock services).step (.bind backend)).Conserved parts.places := by
  obtain ⟨heard, grown, bound⟩ := parts.pool.bind_bound backend (start parts clock services).env
  have isBounded := PoolParts.pool_bounded notBursty
  have empty : parts.pool.sessions.length = 0 := congrArg List.length parts.pool_sessions
  have available : parts.pool.stats.available ≤ parts.pool.capacity := by
    rw [Pool.length_sessions] at empty
    omega
  have stored : ((start parts clock services).step (.bind backend)).owned =
      (parts.pool.bind backend (start parts clock services).env).1.2.sessions :=
    List.append_nil _
  have full := (bound.full isBounded available filled).trans parts.pool_capacity
  have capacity : ((start parts clock services).step (.bind backend)).pool.capacity =
      parts.places := bound.kin.capacity.trans parts.pool_capacity
  have quiet : creationsRefused ((start parts clock services).step (.bind backend)).heard = 0 :=
    (congrArg creationsRefused grown).trans bound.quiet
  refine ⟨bound.kin.bounded.trans isBounded, capacity, ⟨?_, ?_, ?_⟩, ?_, ?_⟩
  · exact fun unbound => nomatch (congrArg Desk.backend bound.desk).symm.trans unbound
  · exact Nat.le_of_eq (by rw [stored, full, capacity])
  · rw [stored]
    refine bound.turnover.born fun session member => ?_
    rw [PoolParts.pool_sessions] at member
    cases member
  · exact (congrArg Desk.checkedOut bound.desk).trans parts.pool_checkedOut
  · rw [stored, full, quiet]
    rfl

/-- Slot conservation. After a successful filling of a new pool, in every run without another
filling or emptying, what is stored, waits or is out, together with the replacements that could
not be created, makes up the size of the pool; and whatever is held would be taken back. -/
theorem play_conserves_slots (parts : PoolParts) (clock : Clock) (services : σ)
    (backend : BackendId) (ops : List (Op σ)) (notBursty : parts.kind ≠ .bursty)
    (filled : (parts.pool.bind backend (start parts clock services).env).1.1 = .ok ())
    (plain : ∀ op ∈ ops, ¬ op.IsBind ∧ ¬ op.IsClear) :
    let l := ((start parts clock services).step (.bind backend)).play ops
    l.pool.stats.available + l.pool.waiting.length + l.pool.stats.checkedOut +
        creationsRefused l.heard = parts.places ∧
      l.pool.stats.checkedOut = l.held.length ∧
      ∀ (place : Nat) (session : Session), l.held[place]? = some session →
        (l.pool.put session l.env).1.1 = .ok () := by
  intro l
  have conserved : l.Conserved parts.places :=
    (bind_conserved parts clock services backend notBursty filled).play ops plain
  have counted : l.pool.stats.checkedOut = l.held.length :=
    l.pool.stats_checkedOut.trans conserved.counted
  refine ⟨?_, counted, fun place session found => ?_⟩
  · have taken := conserved.taken
    rw [owned, List.length_append, Pool.length_sessions] at taken
    omega
  · obtain ⟨heard, -, returned⟩ := l.pool.put_returned session l.env
    exact conserved.sound.put_ok conserved.isBounded found returned

/-- A pool of two loses the place of a session that is gone when it cannot be replaced. -/
theorem play_conserves_slots_of_refused :
    let parts := PoolParts.ofConfig
      { PoolConfig.standard with kind := .pinging, size := 2, pingIntervalSecs := 0 }
    let services := Fleet.ofBackends [.reliable (.fresh none none false) 0]
    let ops : List (Op Fleet) := [.get none, .outside (Fleet.onMemory 0 MemoryBackend.expireAll),
      .outside (Fleet.onBackend 0 (·.arrange .create (some Fleet.unreachable))), .ping]
    let l := ((start parts .running services).step (.bind 0)).play ops
    (parts.pool.bind 0 (start parts .running services).env).1.1 = .ok () ∧
      (∀ op ∈ ops, ¬ op.IsBind ∧ ¬ op.IsClear) ∧
      l.pool.stats.available + l.pool.waiting.length + l.pool.stats.checkedOut +
        creationsRefused l.heard = parts.places := by
  intro parts services ops l
  have notBursty : parts.kind ≠ .bursty := nofun
  have filled : (parts.pool.bind 0 (start parts .running services).env).1.1 = .ok () := by
    decide +kernel
  have plain : ∀ op ∈ ops, ¬ op.IsBind ∧ ¬ op.IsClear := by
    simp [ops, Op.IsBind, Op.IsClear]
  have conserved := play_conserves_slots parts .running services 0 ops notBursty filled plain
  exact ⟨filled, plain, conserved.1⟩

end Lending
end SessionPooling
