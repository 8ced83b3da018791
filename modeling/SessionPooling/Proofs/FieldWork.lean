import SessionPooling.Service

/-! Work on the fields of a record, which are read and written one after the other while the service
is asked in between. A failure ends the work where it is, and what was written by then stays. -/
namespace SessionPooling

/-- Work on the fields of a `ρ`. -/
abbrev FieldWork (σ ρ : Type) := ExceptT Failure (StateT ρ (Act σ))

namespace FieldWork
variable {σ ρ : Type} {α β : Type}

def act (work : Act σ α) : FieldWork σ ρ α := ExceptT.lift (StateT.lift work)

/-- Goes on with a reply, or fails with it. -/
def settle (reply : Except Failure α) : FieldWork σ ρ α := ExceptT.mk (pure reply)

def ask [Service σ] (backend : BackendId) (request : Request) : FieldWork σ ρ request.Answer :=
  ExceptT.mk (StateT.lift (Act.ask backend request))

/-- What the work comes to on some fields. -/
def on (work : FieldWork σ ρ α) (fields : ρ) : Act σ (Except Failure α × ρ) :=
  work.run.run fields

variable (fields : ρ)

theorem on_throw_bind (e : Failure) (next : α → FieldWork σ ρ β) :
    on (throw e >>= next) fields = pure (.error e, fields) := rfl

theorem on_ite (c : Prop) [Decidable c] (work other : FieldWork σ ρ α) :
    on (if c then work else other) fields = if c then work.on fields else other.on fields := by
  split
  · rfl
  · rfl

theorem on_get_bind (next : ρ → FieldWork σ ρ α) :
    on (get >>= next) fields = (next fields).on fields := rfl

/-- What follows goes on with the fields that are left, if there was no failure. -/
theorem on_bind (work : FieldWork σ ρ β) (next : β → FieldWork σ ρ α) :
    on (work >>= next) fields =
      (work.on fields >>= fun r => on (settle r.1 >>= next) r.2) := rfl

/-- Work of which only whether it fails is of interest. -/
theorem on_ignored (work : FieldWork σ ρ α) :
    on (do let _ ← work) fields =
      (work.on fields >>= fun r => pure (r.1.map fun _ => (), r.2)) := by
  rw [on_bind]
  refine bind_congr fun r => ?_
  cases r.1 with
  | ok a => rfl
  | error e => rfl

theorem on_act_bind (work : Act σ β) (next : β → FieldWork σ ρ α) :
    on (act work >>= next) fields = (work >>= fun b => (next b).on fields) := rfl

theorem on_ask_bind [Service σ] (backend : BackendId) (request : Request)
    (next : request.Answer → FieldWork σ ρ α) :
    on (ask backend request >>= next) fields = (Act.ask backend request >>= fun reply =>
      on (settle reply >>= next) fields) := rfl

end FieldWork
end SessionPooling
