import SessionPooling.Pool.Desk
import SessionPooling.Proofs.Turnover

/-! What the desk of a pool and the sessions in its care say to the services: all that the
creation of a session, its probe and its ping can hear, and what comes of a session that a pool
looked at. -/
namespace SessionPooling
variable {σ : Type} [Service σ]

namespace Session

/-- How a service answers whether a session still exists. -/
inductive Probed (session : Session) : Except Failure Bool → List Exchange → Prop where
  | unborn (never : session.creation = none) : Probed session (.ok false) []
  | asked {creation} (known : session.creation = some creation) (reply) :
      Probed session reply [⟨session.backend, .probe creation.id, reply⟩]

/-- The service no longer has the session, and said so one way or the other. -/
inductive Gone (session : Session) : List Exchange → Prop where
  | absent {heard} (probed : session.Probed (.ok false) heard) : Gone session heard
  | notFound {heard e} (missing : e.isNotFound) (probed : session.Probed (.error e) heard) :
      Gone session heard

inductive Pinged (session : Session) : Except Failure Session → List Exchange → Prop where
  | unborn (never : session.creation = none) :
      Pinged session (.error (.invalidOperation .sessionNotCreated)) []
  | failed {creation} (known : session.creation = some creation) (e) :
      Pinged session (.error e) [⟨session.backend, .ping creation.id, .error e⟩]
  | kept {creation} (known : session.creation = some creation) (time) :
      Pinged session (.ok { session with lastUse := time })
        [⟨session.backend, .ping creation.id, .ok ()⟩]

theorem Probed.quiet {session : Session} {reply : Except Failure Bool} {heard : List Exchange}
    (probed : session.Probed reply heard) : creationsRefused heard = 0 := by
  cases probed with
  | unborn => rfl
  | asked => rfl

theorem Gone.quiet {session : Session} {heard : List Exchange} (gone : session.Gone heard) :
    creationsRefused heard = 0 := by
  cases gone with
  | absent probed => exact probed.quiet
  | notFound _ probed => exact probed.quiet

theorem Pinged.quiet {session : Session} {result : Except Failure Session}
    {heard : List Exchange} (pinged : session.Pinged result heard) :
    creationsRefused heard = 0 := by
  cases pinged with
  | unborn => rfl
  | failed => rfl
  | kept => rfl

theorem exists?_probed (session : Session) :
    (session.exists? (σ := Recorder σ)).Hears session.Probed := by
  unfold exists?
  split
  next never => exact .pure (.unborn never)
  next creation known => exact fun _ => ⟨_, rfl, .asked known _⟩

theorem ping_pinged (session : Session) :
    (session.ping (σ := Recorder σ)).Hears session.Pinged := by
  unfold ping
  split
  next never => exact .pure (.unborn never)
  next creation known =>
    refine .asking fun reply => ?_
    cases reply with
    | error e => exact .pure (.failed known e)
    | ok _ =>
      refine .bind (P := fun touched heard => heard = [] ∧ ∃ time,
          touched = { session with lastUse := time })
        (fun env => ⟨[], (List.append_nil _).symm, rfl, env.clock.now, rfl⟩) ?_
      rintro _ _ ⟨rfl, time, rfl⟩
      exact .pure (.kept known time)

end Session

/-- What comes of a session that a pool takes from its store to look at. -/
inductive Condition where
  /-- It, or a new session in its place, can be used. -/
  | fit (session : Session)
  /-- It is gone, and no session could be created in its place. -/
  | lost (failure : Failure)
  /-- The service failed to say, and it goes back to the store. -/
  | unclear (failure : Failure)

/-- What is left of a session that came out in some condition. -/
def Condition.left (popped : Session) : Condition → List Session
  | fit session => [session]
  | lost _ => []
  | unclear _ => [popped]

namespace Desk

inductive Created (desk : Desk) : Except Failure Session → List Exchange → Prop where
  | notBound (unbound : desk.backend = none) : Created desk (.error .notBound) []
  | refused {backend} (bound : desk.backend = some backend) (role e) :
      Created desk (.error e) [⟨backend, .create (desk.template.orRole role), .error e⟩]
  | created {backend} (bound : desk.backend = some backend) (role id time) :
      Created desk (.ok ⟨backend, desk.template.orRole role, some ⟨id, time⟩, time, false, none⟩)
        [⟨backend, .create (desk.template.orRole role), .ok id⟩]

theorem create_created (desk : Desk) : (desk.create (σ := Recorder σ)).Hears desk.Created := by
  unfold create
  split
  next unbound => exact .pure (.notBound unbound)
  next backend bound =>
    refine .bind (P := fun template heard => heard = [] ∧ ∃ role,
        template = desk.template.orRole role)
      (fun env => ⟨[], (List.append_nil _).symm, rfl, Service.role backend env.service, rfl⟩) ?_
    rintro _ _ ⟨rfl, role, rfl⟩
    refine .silently (fun _ => rfl) fun now => .bind (P := desk.Created) ?_ ?_
    · refine .asking fun reply => ?_
      cases reply with
      | error e => exact .pure (.refused bound role e)
      | ok id =>
        exact .silently (fun _ => rfl) fun time => .pure (.created bound role id time)
    · intro result heard created
      cases result with
      | error e => exact .pure created
      | ok session => exact .silently (fun _ => rfl) fun _ => .pure created

theorem replace_created (desk : Desk) (stale : Session) :
    (desk.replace (σ := Recorder σ) stale).Hears desk.Created :=
  .silently (fun _ => rfl) fun _ => desk.create_created

/-- How a session that was taken from a store comes out, when it is probed if at all. -/
inductive Vetted (desk : Desk) (popped : Session) : Condition → List Exchange → Prop where
  | trusted : Vetted desk popped (.fit popped) []
  | alive {heard} (probed : popped.Probed (.ok true) heard) : Vetted desk popped (.fit popped) heard
  | replaced {asked more session} (gone : popped.Gone asked)
      (created : desk.Created (.ok session) more) :
      Vetted desk popped (.fit session) (asked ++ more)
  | lost {asked more e} (gone : popped.Gone asked) (created : desk.Created (.error e) more) :
      Vetted desk popped (.lost e) (asked ++ more)
  | unclear {heard e} (notMissing : e.isNotFound = false)
      (probed : popped.Probed (.error e) heard) : Vetted desk popped (.unclear e) heard

inductive Refreshed (desk : Desk) (popped : Session) : Condition → List Exchange → Prop where
  | pinged {heard session} (pinged : popped.Pinged (.ok session) heard) :
      Refreshed desk popped (.fit session) heard
  | replaced {asked more missing session} (notFound : missing.isNotFound)
      (pinged : popped.Pinged (.error missing) asked) (created : desk.Created (.ok session) more) :
      Refreshed desk popped (.fit session) (asked ++ more)
  | lost {asked more missing e} (notFound : missing.isNotFound)
      (pinged : popped.Pinged (.error missing) asked) (created : desk.Created (.error e) more) :
      Refreshed desk popped (.lost e) (asked ++ more)
  | unclear {heard e} (notMissing : e.isNotFound = false)
      (pinged : popped.Pinged (.error e) heard) : Refreshed desk popped (.unclear e) heard

section
variable {bounded entire : Prop} {desk : Desk} {popped session : Session}
  {asked heard more : List Exchange} {condition : Condition} {e : Failure}

theorem Created.exists_name (created : desk.Created (.ok session) more) :
    creationsRefused more = 0 ∧ ∃ id, session.id? = some id ∧ id ∈ idsIssued more := by
  cases created with
  | created bound role id time => exact ⟨rfl, id, rfl, List.mem_singleton_self id⟩

theorem Created.turnover_ok (created : desk.Created (.ok session) more)
    (quiet : creationsRefused asked = 0) :
    Turnover bounded entire [popped] [session] (asked ++ more) := by
  obtain ⟨quietMore, id, name, fresh⟩ := created.exists_name
  refine .renewed name (idsIssued_append asked more ▸ List.mem_append_right _ fresh) ?_
  rw [creationsRefused_append, quiet, quietMore]

theorem Created.turnover_error (created : desk.Created (.error e) more)
    (quiet : creationsRefused asked = 0) (isBound : entire → desk.backend ≠ none) :
    Turnover bounded entire [popped] [] (asked ++ more) := by
  refine .gone ?_ fun whole => ?_
  · rw [creationsRefused_append, quiet]
    cases created with
    | notBound unbound => exact Nat.zero_le 1
    | refused bound role e => exact Nat.le_refl 1
  · rw [creationsRefused_append, quiet]
    cases created with
    | notBound unbound => exact (isBound whole unbound).elim
    | refused bound role e => rfl

theorem Vetted.quiet_of_unclear (vetted : desk.Vetted popped (.unclear e) heard) :
    creationsRefused heard = 0 := by
  cases vetted with
  | unclear _ probed => exact probed.quiet

theorem Vetted.turnover (vetted : desk.Vetted popped condition heard)
    (isBound : entire → desk.backend ≠ none) :
    Turnover bounded entire [popped] (condition.left popped) heard := by
  cases vetted with
  | trusted => exact .refl _
  | alive probed => exact .same (.refl _) probed.quiet
  | replaced gone created => exact created.turnover_ok gone.quiet
  | lost gone created => exact created.turnover_error gone.quiet isBound
  | unclear _ probed => exact .same (.refl _) probed.quiet

theorem Refreshed.turnover (refreshed : desk.Refreshed popped condition heard)
    (isBound : entire → desk.backend ≠ none) :
    Turnover bounded entire [popped] (condition.left popped) heard := by
  cases refreshed with
  | pinged pinged => cases pinged with
    | kept known time => exact .same (.refl _) rfl
  | replaced _ pinged created => exact created.turnover_ok pinged.quiet
  | lost _ pinged created => exact created.turnover_error pinged.quiet isBound
  | unclear _ pinged => exact .same (.refl _) pinged.quiet

end

end Desk
end SessionPooling
