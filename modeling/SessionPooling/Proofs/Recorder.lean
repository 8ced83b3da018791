import SessionPooling.Service

/-! What is heard of the services. A recorder passes every request on to the services behind
it, gives their answers back unchanged, and writes both down; so whatever these services do,
what the library asked of them is a list, and the part that some work added to it is what was
heard during that work. Looks at the clock, reports and drawn numbers are not written down. -/
namespace SessionPooling

/-- A request and the answer that it got. -/
structure Exchange where
  backend : BackendId
  request : Request
  reply : request.Reply

/-- Services whose exchanges are written down, oldest first. -/
structure Recorder (σ : Type) where
  inner : σ
  heard : List Exchange

instance [Service σ] : Service (Recorder σ) where
  role backend recorder := Service.role backend recorder.inner
  answer backend request now recorder :=
    let (reply, inner) := Service.answer backend request now recorder.inner
    (reply, ⟨inner, recorder.heard ++ [⟨backend, request, reply⟩]⟩)
  draw recorder :=
    let (drawn, inner) := Service.draw recorder.inner
    (drawn, { recorder with inner })

namespace Act
variable {σ : Type} {α β : Type} {act : Act (Recorder σ) α} {next : α → Act (Recorder σ) β}

/-- However things stand outside, `P` relates the result of the work to what is heard during it,
put behind what was heard before. -/
def HearsAfter (act : Act (Recorder σ) α) (before : List Exchange)
    (P : α → List Exchange → Prop) : Prop :=
  ∀ env, ∃ heard, (act env).2.service.heard = env.service.heard ++ heard ∧
    P (act env).1 (before ++ heard)

abbrev Hears (act : Act (Recorder σ) α) (P : α → List Exchange → Prop) : Prop :=
  act.HearsAfter [] P

namespace HearsAfter
variable {before : List Exchange} {P Q : α → List Exchange → Prop}
  {R : β → List Exchange → Prop}

theorem pure (holds : P a before) : HearsAfter (Pure.pure a : Act (Recorder σ) α) before P :=
  fun _ => ⟨[], (List.append_nil _).symm, (List.append_nil before).symm ▸ holds⟩

theorem bind (first : act.Hears P)
    (rest : ∀ a heard, P a heard → (next a).HearsAfter (before ++ heard) R) :
    HearsAfter (act >>= next) before R := by
  intro env
  obtain ⟨heard, grown, holds⟩ := first env
  obtain ⟨more, grownMore, holdsMore⟩ := rest _ heard holds (act env).2
  refine ⟨heard ++ more, ?_, ?_⟩
  · rw [← List.append_assoc, ← grown]
    exact grownMore
  · rw [← List.append_assoc]
    exact holdsMore

/-- What follows work that asks for nothing. -/
theorem silently (silent : ∀ env, (act env).2.service.heard = env.service.heard)
    (rest : ∀ a, (next a).HearsAfter before R) : HearsAfter (act >>= next) before R := by
  intro env
  obtain ⟨heard, grown, holds⟩ := rest (act env).1 (act env).2
  exact ⟨heard, grown.trans (congrArg (· ++ heard) (silent env)), holds⟩

theorem mono (hears : act.Hears P) (weaker : ∀ a heard, P a heard → Q a (before ++ heard)) :
    act.HearsAfter before Q := by
  intro env
  obtain ⟨heard, grown, holds⟩ := hears env
  exact ⟨heard, grown, weaker _ _ holds⟩

/-- Work whose result is only put in another form. -/
theorem map {f : α → β} (hears : act.Hears fun a heard => R (f a) heard) :
    HearsAfter (act >>= fun a => Pure.pure (f a)) [] R :=
  bind hears fun _ _ holds => pure holds

/-- The result is one that the work has. -/
theorem attained (hears : act.HearsAfter before P) :
    act.HearsAfter before fun a heard => P a heard ∧ ∃ env, (act env).1 = a := by
  intro env
  obtain ⟨heard, grown, holds⟩ := hears env
  exact ⟨heard, grown, holds, env, rfl⟩

/-- What is heard during some work is one list, whatever is said of it. -/
theorem and {Q : α → List Exchange → Prop} (first : act.HearsAfter before P)
    (second : act.HearsAfter before Q) :
    act.HearsAfter before fun a heard => P a heard ∧ Q a heard := by
  intro env
  obtain ⟨heard, grown, holds⟩ := first env
  obtain ⟨more, same, holdsMore⟩ := second env
  obtain rfl := List.append_cancel_left (grown.symm.trans same)
  exact ⟨heard, grown, holds, holdsMore⟩

variable [Service σ]

/-- What follows a request: it was heard, with whatever answer it got. -/
theorem asking {backend : BackendId} {request : Request}
    {next : request.Reply → Act (Recorder σ) β}
    (rest : ∀ reply, (next reply).HearsAfter (before ++ [⟨backend, request, reply⟩]) R) :
    HearsAfter (ask backend request >>= next) before R :=
  bind (P := fun reply heard => heard = [⟨backend, request, reply⟩])
    (fun _ => ⟨_, rfl, rfl⟩) fun reply _ same => same ▸ rest reply

end HearsAfter
end Act
end SessionPooling
