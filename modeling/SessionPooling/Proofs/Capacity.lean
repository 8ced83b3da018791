import SessionPooling.Backend.Fleet
import SessionPooling.Proofs.Lending

/-! How many sessions there can be. A pool that keeps to its capacity bounds what it stores, and
fills its store up to its size whatever is out; so what it stores and what is out together exceed
the size just by what was out when the pool was filled up. -/
namespace SessionPooling.Lending
variable {σ : Type} [Service σ]

/-- What is stored, waits or is out. -/
def total (l : Lending σ) : Nat :=
  l.pool.stats.available + l.pool.waiting.length + l.held.length

def Op.outWhenFilled (l : Lending σ) : Op σ → Nat
  | .bind _ => l.held.length
  | _ => 0

/-- The most sessions that are out at any filling of a run. -/
def mostOutWhenFilled (l : Lending σ) : List (Op σ) → Nat
  | [] => 0
  | op :: ops => max (op.outWhenFilled l) ((l.step op).mostOutWhenFilled ops)

/-- A store within its so many places, and no more sessions over all than that and some more. -/
structure Within (places excess : Nat) (l : Lending σ) : Prop where
  isBounded : l.pool.bounded
  capacity : l.pool.capacity = places
  fits : l.pool.sessions.length ≤ places
  total : l.owned.length ≤ places + excess

omit [Service σ] in
theorem length_owned (l : Lending σ) : l.owned.length = l.total :=
  List.length_append.trans (congrArg (· + l.held.length) l.pool.length_sessions)

theorem Within.step {l : Lending σ} {places excess : Nat} (within : l.Within places excess)
    (op : Op σ) {heard : List Exchange} (stepped : l.Stepped op (l.step op) heard)
    (measured : Desk.Measured heard) :
    (l.step op).Within places (max excess (op.outWhenFilled l)) := by
  obtain ⟨isBounded, capacity, fits, total⟩ := within
  have stillFits := stepped.fits isBounded measured (capacity ▸ fits)
  rw [capacity] at stillFits
  refine ⟨stepped.kin.bounded.trans isBounded, stepped.kin.capacity.trans capacity, stillFits, ?_⟩
  -- Filling is the only operation that adds to what is owned.
  by_cases filling : op.IsBind
  · cases op with
    | bind backend =>
      have length : (l.step (.bind backend)).owned.length =
          (l.step (.bind backend)).pool.sessions.length + l.held.length := List.length_append
      have out : (Op.bind backend : Op σ).outWhenFilled l = l.held.length := rfl
      omega
    | _ => exact filling.elim
  · have fewer := stepped.turnover.atMost ⟨isBounded, filling⟩
    omega

theorem Within.play {places : Nat} (ops : List (Op σ)) :
    ∀ {l : Lending σ} {excess : Nat}, l.Within places excess → Desk.Measured (l.play ops).heard →
      (l.play ops).Within places (max excess (l.mostOutWhenFilled ops)) := by
  induction ops with
  | nil =>
    intro l excess within _
    exact (Nat.max_zero excess).symm ▸ within
  | cons op ops ih =>
    intro l excess within measured
    obtain ⟨heard, stepped⟩ := l.step_stepped op
    have measuredStep : Desk.Measured (l.step op).heard :=
      measured.subset ((l.step op).heard_prefix_play ops).subset
    rw [stepped.grown] at measuredStep
    have next := ih (within.step op stepped (measuredStep.subset (List.subset_append_right _ _)))
      measured
    rw [Nat.max_assoc] at next
    exact next

/-- Filling leaves no place empty, also those of sessions that are out. -/
theorem Within.total_bind {l : Lending σ} {places excess : Nat} (within : l.Within places excess)
    (backend : BackendId) (filled : (l.pool.bind backend l.env).1.1 = .ok ()) :
    (l.step (.bind backend)).total = places + l.held.length := by
  obtain ⟨heard, -, bound⟩ := l.pool.bind_bound backend l.env
  have available : l.pool.stats.available ≤ l.pool.capacity := by
    have fits := within.fits
    rw [Pool.length_sessions] at fits
    rw [within.capacity]
    omega
  have full := bound.full within.isBounded available filled
  rw [within.capacity] at full
  rw [← length_owned]
  exact List.length_append.trans (congrArg (· + l.held.length) full)

omit [Service σ] in
theorem start_within (parts : PoolParts) (clock : Clock) (services : σ)
    (notBursty : parts.kind ≠ .bursty) : (start parts clock services).Within parts.places 0 := by
  have stored : parts.pool.sessions.length = 0 := congrArg List.length parts.pool_sessions
  have owned : (start parts clock services).owned.length = 0 :=
    (congrArg List.length (List.append_nil _)).trans stored
  refine ⟨PoolParts.pool_bounded notBursty, parts.pool_capacity, ?_, ?_⟩
  · exact Nat.le_trans (Nat.le_of_eq stored) (Nat.zero_le _)
  · exact Nat.le_trans (Nat.le_of_eq owned) (Nat.zero_le _)

/-- The capacity invariant, for services that create no more sessions at a time than they were
asked for. What is stored, waits or is out exceeds the size of a pool by no more than the most
that was out at any filling; so not at all when every filling happens while nothing is out. And
a filling that succeeds exceeds it by just what is out. -/
theorem play_within_capacity (parts : PoolParts) (clock : Clock) (services : σ)
    (ops : List (Op σ)) (notBursty : parts.kind ≠ .bursty)
    (measured : Desk.Measured ((start parts clock services).play ops).heard) :
    ((start parts clock services).play ops).total ≤
        parts.places + (start parts clock services).mostOutWhenFilled ops ∧
      ∀ earlier backend later, ops = earlier ++ .bind backend :: later →
        let before := (start parts clock services).play earlier
        (before.pool.bind backend before.env).1.1 = .ok () →
          (before.step (.bind backend)).total = parts.places + before.held.length := by
  have begun := start_within parts clock services notBursty
  constructor
  · have total := (begun.play ops measured).total
    rw [length_owned, Nat.zero_max] at total
    exact total
  · rintro earlier backend later rfl before filled
    rw [play_append] at measured
    have measuredBefore : Desk.Measured before.heard :=
      measured.subset (before.heard_prefix_play _).subset
    exact (begun.play earlier measuredBefore).total_bind backend filled

/-- A pool that is filled once more while its only session is out. -/
theorem play_within_capacity_of_refilled :
    let parts := PoolParts.ofConfig { PoolConfig.standard with kind := .transactionPinging, size := 1 }
    let begun := start parts .running (Fleet.ofBackends [.reliable (.fresh none none false) 0])
    let ops : List (Op Fleet) := [.bind 0, .get none, .put 0, .get none, .bind 0, .get none]
    Desk.Measured (begun.play ops).heard ∧
      (begun.play ops).total ≤ parts.places + begun.mostOutWhenFilled ops := by
  intro parts begun ops
  have measured : Desk.Measured (begun.play ops).heard := by
    decide +kernel
  exact ⟨measured, (play_within_capacity parts _ _ ops nofun measured).1⟩

/-- What is stored and what is out can exceed the size of a pool. -/
theorem refilled_exceeds_capacity :
    let parts := PoolParts.ofConfig { PoolConfig.standard with size := 1 }
    let begun := start parts .running (Fleet.ofBackends [.reliable (.fresh none none false) 0])
    let l := begun.play ([.bind 0, .get none, .bind 0] : List (Op Fleet))
    Desk.Measured l.heard ∧ ¬ l.total ≤ parts.places := by
  decide +kernel

end SessionPooling.Lending
