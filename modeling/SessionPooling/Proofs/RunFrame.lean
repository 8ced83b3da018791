import SessionPooling.Proofs.FailedWork

/-! What a run of an executor does besides its callback: it counts, looks at the clock, sleeps and
asks the services. A relation between systems that does not mind any of that holds from before a
run to after it, if it holds so for each run of the callback. -/
namespace SessionPooling
variable {σ κ α β γ : Type}

/-- A relation that does not mind what becomes of the executors, or what more is heard of the
services. -/
structure System.Frame (R : System (Recorder σ) κ → System (Recorder σ) κ → Prop) : Prop where
  refl : ∀ sys, R sys sys
  trans : ∀ {before mid after}, R before mid → R mid after → R before after
  outside : ∀ sys env, sys.env.service.heard <+: env.service.heard → R sys { sys with env }
  executors : ∀ sys executors, R sys { sys with executors }

/-- However things stand, the work keeps to a relation. -/
def Sys.Within (R : System (Recorder σ) κ → System (Recorder σ) κ → Prop)
    (work : Sys (Recorder σ) κ β) : Prop :=
  ∀ sys, R sys (work sys).2

namespace System.Frame
variable {R : System (Recorder σ) κ → System (Recorder σ) κ → Prop} {work : Sys (Recorder σ) κ β}
  {next : β → Sys (Recorder σ) κ γ}

theorem pure (frame : Frame R) (b : β) : Sys.Within R (Pure.pure b) := fun sys => frame.refl sys

theorem bind (frame : Frame R) (first : work.Within R) (rest : ∀ b, (next b).Within R) :
    Sys.Within R (work >>= next) :=
  fun sys => frame.trans (first sys) (rest (work sys).1 (work sys).2)

theorem act (frame : Frame R) {act : Act (Recorder σ) β} (hears : act.Hears fun _ _ => True) :
    Sys.Within R (Sys.act act) := by
  intro sys
  obtain ⟨heard, grown, -⟩ := hears sys.env
  exact frame.outside sys _ ⟨heard, grown.symm⟩

/-- Work outside that asks for nothing. -/
theorem silent (frame : Frame R) {act : Act (Recorder σ) β}
    (silent : ∀ env, (act env).2.service.heard = env.service.heard) :
    Sys.Within R (Sys.act act) :=
  fun sys => frame.outside sys _ ⟨[], (List.append_nil _).trans (silent sys.env).symm⟩

theorem count (frame : Frame R) (x : Nat) (change : ExecutorStats → ExecutorStats) :
    Sys.Within R (Sys.count x change) :=
  fun sys => frame.executors sys _

end System.Frame

namespace Executor
variable [Service σ] {R : System (Recorder σ) κ → System (Recorder σ) κ → Prop}

section
variable {σ : Type} [Service σ]

end

end Executor
end SessionPooling
