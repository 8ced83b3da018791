import SessionPooling.Proofs.Desk

/-! What is heard of the services while the clock goes on. A clock that is set by hand stands
still during any work on a pool, and one that runs only goes forward; so each time that is looked
at lies between the beginning of the work and its end. -/
namespace SessionPooling
variable {σ : Type}

namespace Clock

/-- What a clock shows later, when no one moved it. -/
structure Passes (begun ended : Clock) : Prop where
  forward : begun.now ≤ ended.now
  still : begun.runs = false → ended = begun

/-- A time that the clock showed meanwhile. -/
structure Spans (begun : Clock) (time : Instant) (ended : Clock) : Prop where
  notBefore : begun.now ≤ time
  notAfter : time ≤ ended.now
  still : begun.runs = false → time = begun.now

variable {begun mid ended : Clock} {time : Instant}

theorem Passes.refl (clock : Clock) : clock.Passes clock := ⟨Int.le_refl _, fun _ => rfl⟩

theorem Passes.trans (first : begun.Passes mid) (second : mid.Passes ended) :
    begun.Passes ended := by
  refine ⟨Int.le_trans first.forward second.forward, fun still => ?_⟩
  obtain rfl := first.still still
  exact second.still still

theorem passes_wait (clock : Clock) (d : Duration) : clock.Passes (clock.wait d) :=
  ⟨clock.now_le_wait d, fun still => clock.wait_of_not_runs still d⟩

theorem Passes.spans (first : begun.Passes mid) (second : mid.Passes ended) :
    begun.Spans mid.now ended :=
  ⟨first.forward, second.forward, fun still => congrArg Clock.now (first.still still)⟩

theorem Spans.earlier (spans : mid.Spans time ended) (first : begun.Passes mid) :
    begun.Spans time ended := by
  refine ⟨Int.le_trans first.forward spans.notBefore, spans.notAfter, fun still => ?_⟩
  obtain rfl := first.still still
  exact spans.still still

theorem Spans.later (spans : begun.Spans time mid) (next : mid.Passes ended) :
    begun.Spans time ended :=
  ⟨spans.notBefore, Int.le_trans spans.notAfter next.forward, spans.still⟩

end Clock

namespace Act
variable {α β : Type} {act : Act (Recorder σ) α} {next : α → Act (Recorder σ) β}

/-- Begun when the clock shows `clock`, the work has a result, hears something, put behind what
was heard before, and ends when the clock shows something, which `P` relates. -/
def HearsFrom (act : Act (Recorder σ) α) (clock : Clock) (before : List Exchange)
    (P : α → List Exchange → Clock → Prop) : Prop :=
  ∀ env, env.clock = clock → ∃ heard, (act env).2.service.heard = env.service.heard ++ heard ∧
    clock.Passes (act env).2.clock ∧ P (act env).1 (before ++ heard) (act env).2.clock

namespace HearsFrom
variable {clock : Clock} {before : List Exchange} {P P' : α → List Exchange → Clock → Prop}
  {Q : β → List Exchange → Clock → Prop}

theorem pure {a : α} (holds : P a before clock) :
    HearsFrom (Pure.pure a : Act (Recorder σ) α) clock before P := by
  rintro env rfl
  refine ⟨[], (List.append_nil _).symm, .refl _, ?_⟩
  rw [List.append_nil]
  exact holds

theorem apply {env : Env (Recorder σ)} (hears : act.HearsFrom env.clock [] P) :
    ∃ heard, (act env).2.service.heard = env.service.heard ++ heard ∧
      env.clock.Passes (act env).2.clock ∧ P (act env).1 heard (act env).2.clock :=
  hears env rfl

theorem bind (first : act.HearsFrom clock [] P)
    (rest : ∀ a heard mid, clock.Passes mid → P a heard mid →
      (next a).HearsFrom mid (before ++ heard) Q) :
    HearsFrom (act >>= next) clock before Q := by
  intro env now
  obtain ⟨heard, grown, passes, holds⟩ := first env now
  obtain ⟨more, grownMore, passesMore, holdsMore⟩ := rest _ heard _ passes holds (act env).2 rfl
  refine ⟨heard ++ more, ?_, passes.trans passesMore, ?_⟩
  · rw [← List.append_assoc, ← grown]
    exact grownMore
  · rw [← List.append_assoc]
    exact holdsMore

theorem mono (hears : act.HearsFrom clock before P)
    (weaker : ∀ a heard ended, P a heard ended → P' a heard ended) :
    act.HearsFrom clock before P' := by
  intro env now
  obtain ⟨heard, grown, passes, holds⟩ := hears env now
  exact ⟨heard, grown, passes, weaker _ _ _ holds⟩

/-- What is heard is put behind what was heard before. -/
theorem behind (hears : act.HearsFrom clock [] P)
    (weaker : ∀ a heard ended, P a heard ended → P' a (before ++ heard) ended) :
    act.HearsFrom clock before P' := by
  intro env now
  obtain ⟨heard, grown, passes, holds⟩ := hears env now
  exact ⟨heard, grown, passes, weaker _ _ _ holds⟩

/-- Work whose result is only put in another form. -/
theorem map {f : α → β} (hears : act.HearsFrom clock [] fun a => Q (f a)) :
    HearsFrom (act >>= fun a => Pure.pure (f a)) clock [] Q :=
  bind hears fun _ _ _ _ holds => pure holds

/-- What follows work that asks for nothing and leaves the clock. -/
theorem silently (silent : ∀ env, (act env).2.service.heard = env.service.heard)
    (timeless : ∀ env, (act env).2.clock = env.clock)
    (rest : ∀ a, (next a).HearsFrom clock before Q) : HearsFrom (act >>= next) clock before Q := by
  intro env now
  obtain ⟨heard, grown, passes, holds⟩ :=
    rest (act env).1 (act env).2 ((timeless env).trans now)
  exact ⟨heard, grown.trans (congrArg (· ++ heard) (silent env)), passes, holds⟩

theorem waiting {next : Unit → Act (Recorder σ) β} {d : Duration}
    (rest : (next ()).HearsFrom (clock.wait d) before Q) :
    HearsFrom (wait d >>= next) clock before Q := by
  rintro env rfl
  obtain ⟨heard, grown, passes, holds⟩ := rest { env with clock := env.clock.wait d } rfl
  exact ⟨heard, grown, (env.clock.passes_wait d).trans passes, holds⟩

theorem looking {next : Instant → Act (Recorder σ) β}
    (rest : (next clock.now).HearsFrom (clock.wait Clock.glance) before Q) :
    HearsFrom (now >>= next) clock before Q := by
  rintro env rfl
  obtain ⟨heard, grown, passes, holds⟩ := rest (now env).2 rfl
  exact ⟨heard, grown, (env.clock.passes_wait _).trans passes, holds⟩

variable [Service σ]

theorem asking {backend : BackendId} {request : Request}
    {next : request.Reply → Act (Recorder σ) β}
    (rest : ∀ reply, (next reply).HearsFrom clock (before ++ [⟨backend, request, reply⟩]) Q) :
    HearsFrom (ask backend request >>= next) clock before Q := by
  rintro env rfl
  obtain ⟨heard, grown, passes, holds⟩ := rest (ask backend request env).1
    (ask backend request env).2 rfl
  refine ⟨[⟨backend, request, (ask backend request env).1⟩] ++ heard, ?_, passes, ?_⟩
  · rw [← List.append_assoc]
    exact grown
  · rw [← List.append_assoc]
    exact holds

end HearsFrom
end Act

/-- Begun when the clock shows `clock`, the work can have that result and end when it shows
`ended`. -/
def Act.Yields {α : Type} (act : Act σ α) (clock : Clock) (result : α) (ended : Clock) : Prop :=
  ∃ env, env.clock = clock ∧ (act env).1 = result ∧ (act env).2.clock = ended

namespace Act.Yields
variable {α : Type} {act : Act (Recorder σ) α} {clock ended : Clock} {result : α}

theorem of_hears {P : α → List Exchange → Prop} (yields : act.Yields clock result ended)
    (hears : act.Hears P) : ∃ heard, P result heard := by
  obtain ⟨env, -, rfl, -⟩ := yields
  obtain ⟨heard, -, holds⟩ := hears env
  exact ⟨heard, holds⟩

theorem of_hearsFrom {P : α → List Exchange → Clock → Prop}
    (yields : act.Yields clock result ended) (hears : act.HearsFrom clock [] P) :
    ∃ heard, P result heard ended := by
  obtain ⟨env, shown, rfl, rfl⟩ := yields
  obtain ⟨heard, -, -, holds⟩ := hears env shown
  exact ⟨heard, holds⟩

end Act.Yields

/-- Work that leaves the services alone and goes by nothing but the clock. -/
structure Act.ByClock {α : Type} (act : Act σ α) : Prop where
  apart : ∀ env : Env σ, (act env).2.service = env.service
  passes : ∀ env : Env σ, env.clock.Passes (act env).2.clock
  alike : ∀ env other : Env σ, env.clock = other.clock →
    (act env).1 = (act other).1 ∧ (act env).2.clock = (act other).2.clock

namespace Act.ByClock
variable {α β : Type} {act : Act σ α} {next : α → Act σ β}

theorem pure (a : α) : ByClock (Pure.pure a : Act σ α) :=
  ⟨fun _ => rfl, fun env => .refl env.clock, fun _ _ same => ⟨rfl, same⟩⟩

theorem now : ByClock (Act.now : Act σ Instant) := by
  refine ⟨fun _ => rfl, fun env => env.clock.passes_wait _, fun env other same => ?_⟩
  simp only [Act.now, same, and_self]

theorem bind (first : act.ByClock) (rest : ∀ a, (next a).ByClock) : (act >>= next).ByClock := by
  refine ⟨fun env => ?_, fun env => ?_, fun env other same => ?_⟩
  · exact ((rest _).apart _).trans (first.apart env)
  · exact (first.passes env).trans ((rest _).passes _)
  · obtain ⟨result, clock⟩ := first.alike env other same
    obtain ⟨ended, final⟩ := (rest (act env).1).alike _ _ clock
    rw [result] at ended final
    have begun : (act >>= next) env = next (act other).1 (act env).2 := by
      rw [← result]
      rfl
    rw [begun]
    exact ⟨ended, final⟩

/-- Nothing is heard during such work. -/
theorem hearsFrom {act : Act (Recorder σ) α} (byClock : act.ByClock) (clock : Clock) :
    act.HearsFrom clock [] fun a heard ended => heard = [] ∧ act.Yields clock a ended := by
  rintro env rfl
  refine ⟨[], ?_, byClock.passes env, rfl, env, rfl, rfl, rfl⟩
  rw [byClock.apart env, List.append_nil]

end Act.ByClock

variable [Service σ]

/-- A session that was created meanwhile, with one request. -/
inductive Desk.Made (desk : Desk) (begun ended : Clock) : Session → List Exchange → Prop where
  | made {backend time} (bound : desk.backend = some backend) (shown : begun.Spans time ended)
      (template id) :
      Made desk begun ended ⟨backend, template, some ⟨id, time⟩, time, false, none⟩
        [⟨backend, .create template, .ok id⟩]

namespace Desk
variable {desk : Desk} {begun mid ended : Clock}

theorem Made.earlier {session : Session} {heard : List Exchange}
    (made : desk.Made mid ended session heard) (first : begun.Passes mid) :
    desk.Made begun ended session heard := by
  obtain ⟨bound, shown, template, id⟩ := made
  exact .made bound (shown.earlier first) template id

theorem Made.used {session : Session} {heard : List Exchange}
    (made : desk.Made begun ended session heard) : begun.Spans session.lastUse ended := by
  obtain ⟨bound, shown, template, id⟩ := made
  exact shown

theorem unborn_create_made {backend : BackendId} (bound : desk.backend = some backend)
    (template : Template) (now : Instant) (clock : Clock) :
    ((Session.unborn backend template now).create (σ := Recorder σ)).HearsFrom clock []
      fun made heard ended => ∀ session, made = .ok session →
        desk.Made clock ended session heard := by
  refine .asking fun reply => ?_
  cases reply with
  | error e => exact .pure fun _ => nofun
  | ok id =>
    have shown : clock.Spans clock.now (clock.wait Clock.glance) :=
      (Clock.Passes.refl clock).spans (clock.passes_wait Clock.glance)
    refine .looking (.pure ?_)
    rintro session ⟨⟩
    exact .made bound shown template id

theorem create_made (desk : Desk) (clock : Clock) :
    (desk.create (σ := Recorder σ)).HearsFrom clock [] fun made heard ended =>
      ∀ session, made = .ok session → desk.Made clock ended session heard := by
  unfold create
  split
  · exact .pure fun _ => nofun
  next backend bound =>
    have resolved (env : Env (Recorder σ)) : (desk.resolvedTemplate backend env).2 = env := rfl
    refine .silently (fun env => ?_) (fun env => ?_) fun template => ?_
    · rw [resolved]
    · rw [resolved]
    refine .looking (.bind (unborn_create_made bound template _ _) ?_)
    intro made heard ended passes created
    cases made with
    | error e => exact .pure fun _ => nofun
    | ok session =>
      refine .silently (fun _ => rfl) (fun _ => rfl) fun _ => .pure ?_
      rintro _ ⟨⟩
      exact (created session rfl).earlier (clock.passes_wait _)

theorem replace_made (desk : Desk) (stale : Session) (clock : Clock) :
    (desk.replace (σ := Recorder σ) stale).HearsFrom clock [] fun made heard ended =>
      ∀ session, made = .ok session → desk.Made clock ended session heard :=
  .silently (fun _ => rfl) (fun _ => rfl) fun _ => desk.create_made clock

end Desk
end SessionPooling
