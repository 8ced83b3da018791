import SessionPooling.Proofs.Lending

/-! Taking and pinging that fail. A failure leaves the pool as it was, but for a session that was
found gone and could not be replaced; and it is the failure that the service answered with. That
a session which was looked at goes back to its place needs room for it, which there is in every
state that a pool gets into. -/
namespace SessionPooling
variable {α : Type}

/-- The failure that a service answered with. -/
def Exchange.failure? (exchange : Exchange) : Option Failure :=
  match exchange.reply with
  | .ok _ => none
  | .error e => some e

/-- Every failure of a service is handed on as it is, but for those by which it says that the
session asked about is missing. -/
def HandsOn (asking : RequestKind) (result : Except Failure α) (heard : List Exchange) : Prop :=
  ∀ exchange ∈ heard, ∀ e, exchange.failure? = some e →
    result = .error e ∨ e.isNotFound ∧ exchange.request.kind = asking

/-- The failure with which looking at a session ended. -/
def Condition.failure? : Condition → Option Failure
  | fit _ => none
  | lost e => some e
  | unclear e => some e

section
variable {asking : RequestKind} {result : Except Failure α} {heard more : List Exchange}
  {desk : Desk} {session popped : Session} {condition : Condition}

theorem HandsOn.nil : HandsOn asking result [] := by
  intro exchange member
  cases member

theorem HandsOn.single {exchange : Exchange}
    (handsOn : ∀ e, exchange.failure? = some e →
      result = .error e ∨ e.isNotFound ∧ exchange.request.kind = asking) :
    HandsOn asking result [exchange] := by
  intro other member
  obtain rfl := List.mem_singleton.1 member
  exact handsOn

theorem HandsOn.append (first : HandsOn asking result heard)
    (second : HandsOn asking result more) : HandsOn asking result (heard ++ more) :=
  List.forall_mem_append.2 ⟨first, second⟩

theorem Session.Probed.handsOn {reply : Except Failure Bool}
    (probed : session.Probed reply heard)
    (ends : ∀ e, reply = .error e → result = .error e ∨ e.isNotFound) :
    HandsOn .probe result heard := by
  cases probed with
  | unborn => exact .nil
  | asked known reply =>
    refine .single fun e failed => ?_
    cases reply with
    | ok found => cases failed
    | error told =>
      cases failed
      exact (ends _ rfl).imp_right fun missing => ⟨missing, rfl⟩

theorem Session.Gone.handsOn (gone : session.Gone heard) : HandsOn .probe result heard := by
  cases gone with
  | absent probed => exact probed.handsOn nofun
  | notFound missing probed =>
    refine probed.handsOn fun e same => ?_
    cases same
    exact .inr missing

theorem Session.Pinged.handsOn {reply : Except Failure Session}
    (pinged : session.Pinged reply heard)
    (ends : ∀ e, reply = .error e → result = .error e ∨ e.isNotFound) :
    HandsOn .ping result heard := by
  cases pinged with
  | unborn => exact .nil
  | failed known told =>
    refine .single fun e failed => ?_
    cases failed
    exact (ends _ rfl).imp_right fun missing => ⟨missing, rfl⟩
  | kept => exact .single nofun

theorem Desk.Created.handsOn {made : Except Failure Session} (created : desk.Created made heard)
    (ends : ∀ e, made = .error e → result = .error e) : HandsOn asking result heard := by
  cases created with
  | notBound => exact .nil
  | refused bound role told =>
    refine .single fun e failed => ?_
    cases failed
    exact .inl (ends _ rfl)
  | created => exact .single nofun

theorem Desk.Vetted.handsOn (vetted : desk.Vetted popped condition heard)
    (ends : ∀ e, condition.failure? = some e → result = .error e) :
    HandsOn .probe result heard := by
  cases vetted with
  | trusted => exact .nil
  | alive probed => exact probed.handsOn nofun
  | replaced gone created => exact gone.handsOn.append (created.handsOn nofun)
  | lost gone created =>
    refine gone.handsOn.append (created.handsOn fun e same => ?_)
    cases same
    exact ends _ rfl
  | unclear notMissing probed =>
    refine probed.handsOn fun e same => ?_
    cases same
    exact .inl (ends _ rfl)

theorem Desk.Refreshed.handsOn (refreshed : desk.Refreshed popped condition heard)
    (ends : ∀ e, condition.failure? = some e → result = .error e) :
    HandsOn .ping result heard := by
  have missed {missing : Failure} {asked : List Exchange} (notFound : missing.isNotFound)
      (pinged : popped.Pinged (.error missing) asked) : HandsOn .ping result asked := by
    refine pinged.handsOn fun e same => ?_
    cases same
    exact .inr notFound
  cases refreshed with
  | pinged pinged => exact pinged.handsOn nofun
  | replaced notFound pinged created =>
    exact (missed notFound pinged).append (created.handsOn nofun)
  | lost notFound pinged created =>
    refine (missed notFound pinged).append (created.handsOn fun e same => ?_)
    cases same
    exact ends _ rfl
  | unclear notMissing pinged =>
    refine pinged.handsOn fun e same => ?_
    cases same
    exact .inl (ends _ rfl)

end

namespace Pool
variable {pool after : Pool} {heard : List Exchange}

theorem Took.handsOn {result : Except Failure Session} (took : pool.Took result after heard) :
    HandsOn .probe result heard := by
  have same {e told : Failure} (same : some e = some told) :
      (.error e : Except Failure Session) = .error told :=
    congrArg Except.error (Option.some.inj same)
  cases took with
  | exhausted => exact .nil
  | created isBursty empty created => exact created.handsOn nofun
  | notCreated isBursty empty created => exact created.handsOn fun _ => id
  | handedOut taken vetted => exact vetted.handsOn nofun
  | lost taken vetted => exact vetted.handsOn fun _ => same
  | putBack taken vetted => exact vetted.handsOn fun _ => same
  | crowdedOut taken overfull vetted => exact vetted.handsOn fun _ => same

/-- Every way in which taking a session can fail. -/
theorem Took.failed {e : Failure} (took : pool.Took (.error e) after heard)
    (stocked : pool.Stocked) :
    (pool.bounded ∧ pool.pop? = none ∧ (∃ limit, e = .poolExhausted limit) ∧ heard = [] ∧
      after = pool) ∨
    (∃ popped rest, pool.pop? = some (popped, rest) ∧
      pool.desk.Vetted popped (.unclear e) heard ∧ after = pool) ∨
    (∃ popped rest, pool.pop? = some (popped, rest) ∧
      pool.desk.Vetted popped (.lost e) heard ∧ after = rest) ∨
    (pool.bounded = false ∧ pool.pop? = none ∧ pool.desk.Created (.error e) heard ∧
      after = pool) := by
  cases took with
  | exhausted isBounded empty limit => exact .inl ⟨isBounded, empty, ⟨limit, rfl⟩, rfl, rfl⟩
  | putBack taken vetted => exact .inr (.inl ⟨_, _, taken, vetted, rfl⟩)
  | lost taken vetted => exact .inr (.inr (.inl ⟨_, _, taken, vetted, rfl⟩))
  | notCreated isBursty empty created => exact .inr (.inr (.inr ⟨isBursty, empty, created, rfl⟩))
  | crowdedOut taken overfull vetted => exact absurd stocked overfull

theorem Pinged.handsOn {result : Except Failure Bool} (pinged : pool.Pinged result after heard)
    (stocked : pool.Stocked) : HandsOn .ping result heard := by
  have same {e told : Failure} (same : some e = some told) :
      (.error e : Except Failure Bool) = .error told := congrArg Except.error (Option.some.inj same)
  cases pinged with
  | idle => exact .nil
  | stored now taken refreshed => exact refreshed.handsOn nofun
  | lost taken refreshed => exact refreshed.handsOn fun _ => same
  | putBack taken refreshed => exact refreshed.handsOn fun _ => same
  | crowdedOut taken overfull refreshed => exact absurd stocked overfull

/-- Every way in which a ping can fail. -/
theorem Pinged.failed {e : Failure} (pinged : pool.Pinged (.error e) after heard)
    (stocked : pool.Stocked) :
    (∃ popped rest, pool.pop? = some (popped, rest) ∧
      pool.desk.Refreshed popped (.unclear e) heard ∧ after = pool) ∨
    (∃ popped rest, pool.pop? = some (popped, rest) ∧
      pool.desk.Refreshed popped (.lost e) heard ∧ after = rest) := by
  cases pinged with
  | putBack taken refreshed => exact .inl ⟨_, _, taken, refreshed, rfl⟩
  | lost taken refreshed => exact .inr ⟨_, _, taken, refreshed, rfl⟩
  | crowdedOut taken overfull refreshed => exact absurd stocked overfull

/-! No operation stocks a pool with more than it has places. -/

theorem Stocked.of_le (stocked : pool.Stocked) (kin : pool.Kin after)
    (fewer : after.stats.available ≤ pool.stats.available) : after.Stocked := by
  intro isBounded
  rw [kin.capacity]
  exact Nat.le_trans fewer (stocked (kin.bounded ▸ isBounded))

theorem available_le_of_pop? {popped : Session} {rest : Pool}
    (taken : pool.pop? = some (popped, rest)) : rest.stats.available ≤ pool.stats.available := by
  rw [available_of_pop? taken]
  exact Nat.le_succ _

theorem Took.available_le {result : Except Failure Session}
    (took : pool.Took result after heard) : after.stats.available ≤ pool.stats.available := by
  cases took with
  | exhausted => exact Nat.le_refl _
  | created => exact Nat.le_of_eq (available_mapDesk _ _)
  | notCreated => exact Nat.le_refl _
  | handedOut taken =>
    rw [available_mapDesk]
    exact available_le_of_pop? taken
  | lost taken => exact available_le_of_pop? taken
  | putBack => exact Nat.le_refl _
  | crowdedOut taken => exact available_le_of_pop? taken

theorem Pinged.available_le {result : Except Failure Bool}
    (pinged : pool.Pinged result after heard) :
    after.stats.available ≤ pool.stats.available := by
  cases pinged with
  | idle => exact Nat.le_refl _
  | stored now taken =>
    have same := available_of_pop? taken
    rw [available_shelve]
    omega
  | lost taken => exact available_le_of_pop? taken
  | putBack => exact Nat.le_refl _
  | crowdedOut taken => exact available_le_of_pop? taken

theorem PingedOn.available_le (went : pool.PingedOn after heard) :
    after.stats.available ≤ pool.stats.available := by
  induction went with
  | done => exact Nat.le_refl _
  | next pinged rest ih => exact Nat.le_trans ih pinged.available_le

theorem Settled.stocked {result : Except Failure Nat} (settled : Settled pool result after)
    (stocked : pool.Stocked) : after.Stocked := by
  cases settled with
  | nothing => exact stocked
  | flushed flushed => exact fun _ => flushed.fits (stocked rfl)

theorem Returned.stocked {session : Session} {result : Except Failure Unit}
    (returned : pool.Returned session result after heard) (stocked : pool.Stocked) :
    after.Stocked := by
  have kin := returned.kin
  cases returned with
  | stored now room =>
    intro isBounded
    rw [kin.bounded] at isBounded
    have atMost := pool.available_le_sessions
    have free := room isBounded
    rw [kin.capacity, available_shelve, available_mapDesk]
    omega
  | waiting same room fresh =>
    subst same
    exact stocked
  | turnedAway => exact stocked
  | _ => exact stocked.of_le kin (Nat.le_of_eq (available_mapDesk _ _))

theorem Cleared.stocked (cleared : pool.Cleared after heard) : after.Stocked := by
  intro isBounded
  have atMost := after.available_le_sessions
  rw [cleared.sessions] at atMost
  exact Nat.le_trans atMost (Nat.zero_le _)

end Pool

namespace Lending
variable {σ : Type}

theorem stocked_startAmong (strangers : List Session) (parts : PoolParts) (clock : Clock)
    (services : σ) : (startAmong strangers parts clock services).pool.Stocked := by
  intro isBounded
  have atMost := parts.pool.available_le_sessions
  rw [parts.pool_sessions] at atMost
  exact Nat.le_trans atMost (Nat.zero_le _)

variable [Service σ]

omit [Service σ] in
theorem Moved.stocked {l after : Lending σ} {op : Op σ} {heard : List Exchange}
    (moved : l.Moved op after heard) (stocked : l.pool.Stocked) : after.pool.Stocked := by
  have unchanged (same : after.pool = l.pool) : after.pool.Stocked := by
    rw [same]
    exact stocked
  cases moved with
  | bound filling bound held => exact bound.stocked stocked
  | took took held => exact stocked.of_le took.kin took.available_le
  | returned gives found returned held => exact returned.stocked stocked
  | cleared emptying cleared held => exact cleared.stocked
  | pinged pinged held => exact stocked.of_le pinged.kin pinged.available_le
  | pingedOn went held => exact stocked.of_le went.kin went.available_le
  | settled settled held => exact settled.stocked stocked
  | used found kept held pool => exact unchanged pool
  | untouched pool held => exact unchanged pool

theorem stocked_step {l : Lending σ} (stocked : l.pool.Stocked) (op : Op σ) :
    (l.step op).pool.Stocked := by
  obtain ⟨heard, -, moved⟩ := l.step_moved op
  exact moved.stocked stocked

theorem stocked_play (ops : List (Op σ)) :
    ∀ {l : Lending σ}, l.pool.Stocked → (l.play ops).pool.Stocked := by
  induction ops with
  | nil => exact fun stocked => stocked
  | cons op ops ih => exact fun stocked => ih (stocked_step stocked op)

/-- In every state that a pool can get into, taking a session and pinging one fail cleanly.
Taking fails for want of a session, or because the probe of the first one failed, and leaves the
pool as it was; or because a session could not be created, and then only the one that was found
gone is missing, if the new one was to replace one. A ping fails because it failed, and leaves the
pool as it was, or because what was found gone could not be replaced. And every failure of a
service is handed on as it is, but for those that say that the session is missing. -/
theorem play_fails_cleanly (strangers : List Session) (parts : PoolParts) (clock : Clock)
    (services : σ) (ops : List (Op σ)) :
    let l := (startAmong strangers parts clock services).play ops
    (∀ timeout,
      let taken := l.pool.get timeout l.env
      ∃ heard, taken.2.service.heard = l.heard ++ heard ∧ HandsOn .probe taken.1.1 heard ∧
        ∀ e, taken.1.1 = .error e →
          (l.pool.bounded ∧ l.pool.pop? = none ∧ (∃ limit, e = .poolExhausted limit) ∧
            heard = [] ∧ taken.1.2 = l.pool) ∨
          (∃ popped rest, l.pool.pop? = some (popped, rest) ∧
            l.pool.desk.Vetted popped (.unclear e) heard ∧ taken.1.2 = l.pool) ∨
          (∃ popped rest, l.pool.pop? = some (popped, rest) ∧
            l.pool.desk.Vetted popped (.lost e) heard ∧ taken.1.2 = rest) ∨
          (l.pool.bounded = false ∧ l.pool.pop? = none ∧
            l.pool.desk.Created (.error e) heard ∧ taken.1.2 = l.pool)) ∧
    (let pinged := l.pool.ping l.env
      ∃ heard, pinged.2.service.heard = l.heard ++ heard ∧ HandsOn .ping pinged.1.1 heard ∧
        ∀ e, pinged.1.1 = .error e →
          (∃ popped rest, l.pool.pop? = some (popped, rest) ∧
            l.pool.desk.Refreshed popped (.unclear e) heard ∧ pinged.1.2 = l.pool) ∨
          (∃ popped rest, l.pool.pop? = some (popped, rest) ∧
            l.pool.desk.Refreshed popped (.lost e) heard ∧ pinged.1.2 = rest)) := by
  intro l
  have stocked : l.pool.Stocked :=
    stocked_play ops (stocked_startAmong strangers parts clock services)
  constructor
  · intro timeout taken
    obtain ⟨heard, grown, took⟩ := l.pool.get_took timeout l.env
    refine ⟨heard, grown, took.handsOn, fun e failed => ?_⟩
    have took : l.pool.Took taken.1.1 taken.1.2 heard := took
    rw [failed] at took
    exact took.failed stocked
  · intro pinged
    obtain ⟨heard, grown, went⟩ := l.pool.ping_pinged l.env
    refine ⟨heard, grown, went.handsOn stocked, fun e failed => ?_⟩
    have went : l.pool.Pinged pinged.1.1 pinged.1.2 heard := went
    rw [failed] at went
    exact went.failed stocked

end Lending
end SessionPooling
