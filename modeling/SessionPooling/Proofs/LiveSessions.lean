import SessionPooling.Proofs.HandingOut
import SessionPooling.Proofs.MissingSessions

/-! Live sessions. What a service in memory confirmed or created last is live, so a session that a
pool hands out after asking for it is live when it is handed out. -/
namespace SessionPooling

/-- The session that, by an exchange, exists. -/
def Exchange.vouched? : Exchange → Option SessionId
  | ⟨_, .probe session, .ok true⟩ => some session
  | ⟨_, .create _, .ok id⟩ => some id
  | _ => none

section
variable {i : BackendId} {fresh : TransactionId} {now : Instant} {request : Request}
  {session : SessionId}

theorem Exchange.vouched?_error {e : Failure} :
    Exchange.vouched? ⟨i, request, .error e⟩ = none := by
  cases request <;> rfl

theorem MemoryBackend.live_of_vouched (backend : MemoryBackend)
    (vouched : Exchange.vouched? ⟨i, request, (backend.answer fresh now request).1⟩ =
      some session) : (backend.answer fresh now request).2.isLive session := by
  cases request with
  | create template =>
    cases vouched
    simp [answer, serve, create, isLive]
  | probe asked =>
    have verdict := verdict_probe
      { backend with received := .probe asked :: backend.received } asked
    simp only [answer, serve] at vouched ⊢
    generalize MemoryBackend.probe _ _ = reply at vouched verdict
    cases reply with
    | error e => cases vouched
    | ok found =>
      cases found with
      | false => cases vouched
      | true =>
        cases vouched
        exact (Except.ok.inj verdict).symm
  | _ => cases vouched

theorem FaultyBackend.live_of_vouched (backend : FaultyBackend)
    (vouched : Exchange.vouched? ⟨i, request, (backend.answer fresh now request).1⟩ =
      some session) : (backend.answer fresh now request).2.inner.isLive session := by
  obtain ⟨inner, plan, surplus⟩ := backend
  cases met : (plan.next request.kind).1 with
  | some e =>
    simp only [answer, met, Exchange.vouched?_error] at vouched
    cases vouched
  | none =>
    cases request with
    | batchCreate count template =>
      simp only [answer, met] at vouched
      cases vouched
    | _ =>
      simp only [answer, met] at vouched ⊢
      exact inner.live_of_vouched vouched

end

namespace Fleet

/-- Whether a session is live on a service. -/
def Knows (fleet : Fleet) (i : BackendId) (session : SessionId) : Prop :=
  ∃ backend, fleet.backends[i]? = some backend ∧ backend.inner.isLive session

theorem knows_of_vouched {i : BackendId} {request : Request} {now : Instant} (fleet : Fleet)
    {session : SessionId}
    (vouched : Exchange.vouched? ⟨i, request, (answer i request now fleet).1⟩ = some session) :
    (answer i request now fleet).2.Knows i session := by
  cases found : fleet.backends[i]? with
  | none =>
    simp only [answer, found, Exchange.vouched?_error] at vouched
    cases vouched
  | some backend =>
    obtain ⟨inRange, -⟩ := List.getElem?_eq_some_iff.1 found
    simp only [answer, found] at vouched ⊢
    exact ⟨_, List.getElem?_set_self inRange, backend.live_of_vouched vouched⟩

/-- The same records; if they grew since there were so many, what the last answer vouched for is
live. -/
structure UpToDate (count : Nat) (_ : Clock) (recorder other : Recorder Fleet) : Prop where
  same : recorder = other
  live : count < recorder.heard.length → ∀ exchange, recorder.heard.getLast? = some exchange →
    ∀ session, exchange.vouched? = some session → recorder.inner.Knows exchange.backend session

theorem tellsAlike_upToDate (count : Nat) : TellsAlike (UpToDate count) := by
  constructor
  · rintro clock recorder _ ⟨rfl, -⟩ backend
    rfl
  · rintro clock recorder _ ⟨rfl, -⟩ backend request
    refine ⟨.refl _ _, rfl, fun _ exchange last session vouched => ?_⟩
    simp only [Service.answer, List.getLast?_concat, Option.some.injEq] at last
    subst last
    exact recorder.inner.knows_of_vouched vouched
  · exact fun upToDate _ => ⟨upToDate.same, upToDate.live⟩

end Fleet

namespace Pool

/-- What is handed out after asking is what the last answer vouched for. -/
theorem HandsOut.vouched {pool : Pool} {begun ended : Clock} {session : Session}
    {heard : List Exchange} {ground : Ground}
    (handsOut : pool.HandsOut begun ended session heard ground) (asked : ground ≠ .trusted) :
    ∃ exchange id, heard.getLast? = some exchange ∧ exchange.backend = session.backend ∧
      exchange.vouched? = some id ∧ session.id? = some id := by
  cases ground with
  | trusted => exact (asked rfl).elim
  | confirmed =>
    obtain ⟨rest, creation, -, known, rfl⟩ := handsOut
    exact ⟨_, creation.id, rfl, rfl, rfl, congrArg (Option.map _) known⟩
  | created =>
    obtain ⟨earlier, _, rfl, -, ⟨bound, shown, template, id⟩⟩ := handsOut
    exact ⟨_, id, List.getLast?_concat, rfl, rfl, rfl⟩

end Pool

namespace Lending

/-- Whether whatever callers give back during a run was created. -/
def GivesCreated {σ : Type} [Service σ] (l : Lending σ) : List (Op σ) → Prop
  | [] => True
  | op :: ops =>
    (∀ place session, op.GivesBack place → l.held[place]? = some session →
      session.creation ≠ none) ∧ (l.step op).GivesCreated ops

section
variable {σ : Type} [Service σ]

omit [Service σ] in
theorem Moved.born {l after : Lending σ} {op : Op σ} {heard : List Exchange}
    (moved : l.Moved op after heard)
    (given : ∀ place session, op.GivesBack place → l.held[place]? = some session →
      session.creation ≠ none)
    (born : ∀ session ∈ l.pool.sessions, session.creation ≠ none) :
    ∀ session ∈ after.pool.sessions, session.creation ≠ none := by
  have unchanged (same : after.pool = l.pool) :
      ∀ session ∈ after.pool.sessions, session.creation ≠ none := by
    rw [same]
    exact born
  cases moved with
  | bound filling bound held => exact bound.turnover.born born
  | took took held => exact (List.forall_mem_append.1 (took.turnover.born born)).2
  | returned gives found returned held =>
    exact returned.turnover.born (List.forall_mem_cons.2 ⟨given _ _ gives found, born⟩)
  | cleared emptying cleared held =>
    rw [cleared.sessions]
    exact List.forall_mem_nil _
  | pinged pinged held => exact pinged.turnover.born born
  | pingedOn went held => exact went.turnover.born born
  | settled settled held => exact settled.turnover.born born
  | used found kept held pool => exact unchanged pool
  | untouched pool held => exact unchanged pool

/-- Callers who hold nothing but what was created, and a pool that has nothing else, never come to
anything else. -/
theorem givesCreated_of_born (ops : List (Op σ)) :
    ∀ {l : Lending σ}, (∀ session ∈ l.owned, session.creation ≠ none) → l.GivesCreated ops := by
  induction ops with
  | nil => exact fun _ => trivial
  | cons op ops ih =>
    intro l born
    obtain ⟨heard, stepped⟩ := l.step_stepped op
    refine ⟨fun place session _ found => ?_, ih (stepped.turnover.born born)⟩
    exact born session (List.mem_append_right _ (List.mem_of_getElem? found))

/-- A pool that is given back nothing but what was created, has nothing else. -/
theorem play_born (ops : List (Op σ)) :
    ∀ {l : Lending σ}, l.GivesCreated ops →
      (∀ session ∈ l.pool.sessions, session.creation ≠ none) →
      ∀ session ∈ (l.play ops).pool.sessions, session.creation ≠ none := by
  induction ops with
  | nil => exact fun _ born => born
  | cons op ops ih =>
    intro l given born
    obtain ⟨heard, -, moved⟩ := l.step_moved op
    exact ih given.2 (moved.born given.1 born)

/-- Taking a session hands one out, which is marked as being in use, on some ground. -/
structure HandsOut (l : Lending σ) (timeout : Option Duration) (session : Session)
    (ground : Ground) : Prop where
  inUse : session.inUse = true
  reason : ∃ usable heard, session = usable.setInUse true ∧
    (l.pool.get timeout l.env).2.service.heard = l.heard ++ heard ∧
    l.pool.HandsOut l.env.clock (l.pool.get timeout l.env).2.clock usable heard ground

variable {l : Lending σ} {timeout : Option Duration} {session : Session} {ground other : Ground}

theorem HandsOut.unique (handsOut : l.HandsOut timeout session ground)
    (again : l.HandsOut timeout session other) : other = ground := by
  obtain ⟨-, usable, heard, -, grown, reason⟩ := handsOut
  obtain ⟨-, usable', heard', -, grown', reason'⟩ := again
  obtain rfl := List.append_cancel_left (grown.symm.trans grown')
  rw [reason.ground_eq, reason'.ground_eq]

theorem HandsOut.silent (handsOut : l.HandsOut timeout session .trusted) :
    (l.pool.get timeout l.env).2.service.heard = l.heard := by
  obtain ⟨-, usable, heard, -, grown, rfl, -⟩ := handsOut
  rw [grown, List.append_nil]

end

/-- Of what is handed out after asking, the service knows. -/
theorem HandsOut.known {l : Lending Fleet} {timeout : Option Duration} {session : Session}
    {ground : Ground} (handsOut : l.HandsOut timeout session ground) (asked : ground ≠ .trusted) :
    ∃ id, session.id? = some id ∧
      (l.pool.get timeout l.env).2.service.inner.Knows session.backend id := by
  obtain ⟨-, usable, heard, rfl, grown, reason⟩ := handsOut
  obtain ⟨exchange, id, last, there, vouched, named⟩ := reason.vouched asked
  refine ⟨id, named, ?_⟩
  -- No more was asked after that, so the service is as it was when it answered.
  have begun : l.env.Alike (Fleet.UpToDate l.heard.length) l.env :=
    ⟨rfl, rfl, fun longer => (Nat.lt_irrefl _ longer).elim⟩
  have inStep := l.pool.get_inStep (Fleet.tellsAlike_upToDate l.heard.length) timeout
  obtain ⟨-, ended⟩ := inStep l.env l.env begun
  have more : l.heard.length < (l.pool.get timeout l.env).2.service.heard.length := by
    rw [grown, List.length_append]
    have nonempty : heard ≠ [] := by
      rintro rfl
      cases last
    have := List.length_pos_of_ne_nil nonempty
    omega
  have latest : (l.pool.get timeout l.env).2.service.heard.getLast? = some exchange := by
    rw [grown, List.getLast?_append, last]
    rfl
  have known := ended.service.live more exchange latest id vouched
  rw [there] at known
  exact known

/-- In every state that a pool gets into when nothing is given back to it that was never created,
a session that is taken is handed out on exactly one ground: it was not old enough to ask for it,
or it was confirmed, or it was created just now. And if a service in memory was asked, the session
is live there when it is handed out. -/
theorem play_hands_out (strangers : List Session) (parts : PoolParts) (clock : Clock)
    (timeout : Option Duration) :
    (∀ (σ : Type) [Service σ] (services : σ) (ops : List (Op σ)),
      let begun := startAmong strangers parts clock services
      let l := begun.play ops
      begun.GivesCreated ops → ∀ session, (l.pool.get timeout l.env).1.1 = .ok session →
        ∃! ground, l.HandsOut timeout session ground) ∧
    ∀ (services : Fleet) (ops : List (Op Fleet)),
      let l := (startAmong strangers parts clock services).play ops
      ∀ session ground, l.HandsOut timeout session ground → ground ≠ .trusted →
        ∃ id, session.id? = some id ∧
          (l.pool.get timeout l.env).2.service.inner.Knows session.backend id := by
  refine ⟨fun σ _ services ops => ?_, fun services ops => ?_⟩
  · intro begun l given session got
    have born : ∀ session ∈ l.pool.sessions, session.creation ≠ none := by
      refine play_born ops given fun session member => ?_
      have empty : begun.pool.sessions = [] := parts.pool_sessions
      rw [empty] at member
      cases member
    obtain ⟨heard, grown, -, duly⟩ := l.pool.get_handsOut timeout born l.env.clock l.env rfl
    obtain ⟨usable, ground, marked, reason⟩ := duly session got
    have handsOut : l.HandsOut timeout session ground :=
      ⟨congrArg Session.inUse marked, usable, heard, marked, grown, reason⟩
    exact ⟨ground, handsOut, fun other again => handsOut.unique again⟩
  · intro l session ground handsOut asked
    exact handsOut.known asked

/-- A session that was given back is asked for, and known, when it is taken again. -/
theorem play_hands_out_of_confirmed :
    let parts := PoolParts.ofConfig
      { PoolConfig.standard with kind := .fixed, size := 1, maxAgeMinutes := 0 }
    let services := Fleet.ofBackends [.reliable (.fresh none none true) 0]
    let ops : List (Op Fleet) := [.bind 0, .outside (Fleet.onMemory 0 MemoryBackend.expireAll),
      .get none, .put 0]
    let begun := startAmong [] parts .running services
    let l := begun.play ops
    begun.GivesCreated ops ∧ ∃ session, (l.pool.get none l.env).1.1 = .ok session ∧
      (∃! ground, l.HandsOut none session ground) ∧
      ∃ id, session.id? = some id ∧
        (l.pool.get none l.env).2.service.inner.Knows session.backend id := by
  intro parts services ops begun l
  have nothing : begun.owned = [] := congrArg (· ++ []) parts.pool_sessions
  have given : begun.GivesCreated ops := by
    refine givesCreated_of_born ops ?_
    rw [nothing]
    exact List.forall_mem_nil _
  have succeeds : (l.pool.get none l.env).1.1.isOk = true := by decide +kernel
  have asked : (l.pool.get none l.env).2.service.heard.length = l.heard.length + 1 := by
    decide +kernel
  obtain ⟨handing, knowing⟩ := play_hands_out [] parts .running none
  have handing := handing Fleet services ops given
  have knowing := knowing services ops
  -- The run goes by its name again, lest it be computed wherever it is mentioned.
  have same : l = (startAmong [] parts .running services).play ops := rfl
  rw [← same] at handing knowing
  cases got : (l.pool.get none l.env).1.1 with
  | error e =>
    rw [got] at succeeds
    cases succeeds
  | ok session =>
    obtain ⟨ground, handsOut, unique⟩ := handing session got
    refine ⟨given, session, rfl, ⟨ground, handsOut, unique⟩, ?_⟩
    refine knowing session ground handsOut ?_
    rintro rfl
    rw [handsOut.silent] at asked
    omega

end Lending
end SessionPooling
