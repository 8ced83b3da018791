import SessionPooling.Proofs.LiveLedger
import SessionPooling.Proofs.NeverOverfull

/-! Filling a pool to its size, by services that may answer with anything, and by a service in
memory. That one numbers its sessions, so what it grants in small batches comes to the same as one
batch; only the number of requests is another. -/
namespace SessionPooling

namespace MemoryBackend

/-- The names of so many sessions that are created next. -/
def namesFrom (created count : Nat) : List SessionId := (List.range' (created + 1) count).map nameOf

theorem length_namesFrom (created count : Nat) : (namesFrom created count).length = count :=
  (List.length_map _).trans List.length_range'

theorem namesFrom_add (created first second : Nat) :
    namesFrom created (first + second) =
      namesFrom created first ++ namesFrom (created + first) second := by
  have order : created + first + 1 = created + 1 + first := by omega
  rw [namesFrom, namesFrom, namesFrom, order, ← List.map_append, List.range'_append_1]

theorem createMany_eq (template : Template) (count : Nat) :
    ∀ backend : MemoryBackend,
      (createMany template count backend).1 = namesFrom backend.created count ∧
      (createMany template count backend).2.created = backend.created + count ∧
      (createMany template count backend).2.batchLimit = backend.batchLimit := by
  induction count with
  | zero => exact fun backend => ⟨rfl, rfl, rfl⟩
  | succ count ih =>
    intro backend
    obtain ⟨names, created, limit⟩ := ih (backend.create template).2
    refine ⟨?_, created.trans (Nat.succ_add_eq_add_succ _ _), limit⟩
    rw [namesFrom, List.range'_succ]
    exact congrArg (nameOf (backend.created + 1) :: ·) names

theorem granted_eq_of_batchLimit {backend other : MemoryBackend}
    (same : other.batchLimit = backend.batchLimit) : other.granted = backend.granted := by
  funext count
  rw [granted, granted, same]

theorem batchLimit_answer (backend : MemoryBackend) (fresh : TransactionId) (now : Instant)
    (request : Request) : (backend.answer fresh now request).2.batchLimit = backend.batchLimit := by
  cases request with
  | batchCreate count template => exact (createMany_eq template _ _).2.2
  | ping session =>
    simp only [answer, serve, ping]
    split <;> rfl
  | begin session =>
    simp only [answer, serve, begin]
    split <;> rfl
  | commit session transaction mutations =>
    simp only [answer, serve, commit]
    split
    · rfl
    · split
      · split <;> rfl
      · rfl
  | rollback session transaction =>
    simp only [answer, serve, rollback]
    split <;> rfl
  | _ => rfl

end MemoryBackend

open MemoryBackend (namesFrom)

/-- What is heard of a service that has created so many sessions: to each request for several it
answers with some number of them, the next that it creates. What else it is asked may make it create
more. -/
inductive Granting (i : BackendId) (granted : Nat → Nat) :
    (created : Nat) → List Exchange → (last : Nat) → Prop where
  | nil {created} : Granting i granted created [] created
  | batch {created last heard count template}
      (others : Granting i granted (created + granted count) heard last) :
      Granting i granted created
        (⟨i, .batchCreate count template, .ok (namesFrom created (granted count))⟩ :: heard) last
  | other {created between last heard exchange}
      (notBatch : exchange.backend = i → exchange.request.kind ≠ .batchCreate)
      (others : Granting i granted between heard last) :
      Granting i granted created (exchange :: heard) last

theorem Granting.of_batch {i : BackendId} {granted : Nat → Nat} {start last count : Nat}
    {template : Template} {reply : Except Failure (List SessionId)} {heard : List Exchange}
    (granting : Granting i granted start (⟨i, .batchCreate count template, reply⟩ :: heard) last) :
    reply = .ok (namesFrom start (granted count)) ∧
      Granting i granted (start + granted count) heard last := by
  cases granting with
  | batch others => exact ⟨rfl, others⟩
  | other notBatch => exact (notBatch rfl rfl).elim

theorem Granting.append {i : BackendId} {granted : Nat → Nat} {created mid last : Nat}
    {heard more : List Exchange} (first : Granting i granted created heard mid)
    (second : Granting i granted mid more last) :
    Granting i granted created (heard ++ more) last := by
  induction first with
  | nil => exact second
  | batch others ih => exact .batch (ih second)
  | other notBatch others ih => exact .other notBatch (ih second)

/-- A service in memory that nothing hinders answers like that. -/
theorem FaultyBackend.granting_answer (memory : MemoryBackend) (i : BackendId)
    (fresh : TransactionId) (now : Instant) (request : Request) :
    ∃ later, ((reliable memory 0).answer fresh now request).2 = .reliable later 0 ∧
      later.batchLimit = memory.batchLimit ∧
      Granting i memory.granted memory.created
        [⟨i, request, ((reliable memory 0).answer fresh now request).1⟩] later.created := by
  have limit := memory.batchLimit_answer fresh now request
  cases request with
  | batchCreate count template =>
    obtain ⟨names, created, -⟩ := MemoryBackend.createMany_eq template (memory.granted count)
      { memory with received := .batchCreate count template :: memory.received }
    refine ⟨(memory.answer fresh now (.batchCreate count template)).2, rfl, limit, ?_⟩
    have replied : ((reliable memory 0).answer fresh now (.batchCreate count template)).1 =
        .ok (namesFrom memory.created (memory.granted count)) := congrArg Except.ok names
    have numbered : (memory.answer fresh now (.batchCreate count template)).2.created =
        memory.created + memory.granted count := created
    rw [replied, numbered]
    exact .batch .nil
  | _ => exact ⟨_, rfl, limit, .other (fun _ => nofun) .nil⟩

theorem Fleet.granting_answer {fleet : Fleet} {i : BackendId} {memory : MemoryBackend}
    (found : fleet.backends[i]? = some (.reliable memory 0)) (j : BackendId) (request : Request)
    (now : Instant) :
    ∃ later, (fleet.answer j request now).2.backends[i]? = some (.reliable later 0) ∧
      later.batchLimit = memory.batchLimit ∧
      Granting i memory.granted memory.created [⟨j, request, (fleet.answer j request now).1⟩]
        later.created := by
  by_cases here : j = i
  · subst here
    obtain ⟨inRange, -⟩ := List.getElem?_eq_some_iff.1 found
    obtain ⟨later, reliable, limit, granting⟩ :=
      FaultyBackend.granting_answer memory j fleet.freshTransaction now request
    simp only [Fleet.answer, found]
    exact ⟨later, (List.getElem?_set_self inRange).trans (congrArg some reliable), limit, granting⟩
  · refine ⟨memory, ?_, rfl, .other (fun there => (here there).elim) .nil⟩
    simp only [Fleet.answer]
    split
    · exact found
    · exact (List.getElem?_set_ne here).trans found

/-- Work that goes alike wherever it is told the same hears just that. -/
theorem Act.InStep.granting {α : Type} {work : Act (Recorder Fleet) α}
    (inStep : ∀ R, TellsAlike R → work.InStep R work Eq) {env : Env (Recorder Fleet)}
    {i : BackendId} {memory : MemoryBackend}
    (found : env.service.inner.backends[i]? = some (.reliable memory 0)) {heard : List Exchange}
    (grown : (work env).2.service.heard = env.service.heard ++ heard) :
    ∃ last, Granting i memory.granted memory.created heard last := by
  let since (_ : Clock) (recorder : Recorder Fleet) : Prop :=
    ∃ later more, recorder.inner.backends[i]? = some (.reliable later 0) ∧
      later.batchLimit = memory.batchLimit ∧ recorder.heard = env.service.heard ++ more ∧
      Granting i memory.granted memory.created more later.created
  have begun : since env.clock env.service :=
    ⟨memory, [], found, rfl, (List.append_nil _).symm, .nil⟩
  have answers {clock : Clock} {recorder : Recorder Fleet} (kept : since clock recorder)
      (j : BackendId) (request : Request) :
      since clock (Service.answer j request clock.now recorder).2 := by
    obtain ⟨mid, more, there, limit, grown, granting⟩ := kept
    obtain ⟨later, stays, same, answered⟩ := Fleet.granting_answer there j request clock.now
    rw [MemoryBackend.granted_eq_of_batchLimit limit] at answered
    refine ⟨later, more ++ [_], stays, same.trans limit, ?_, granting.append answered⟩
    rw [← List.append_assoc, ← grown]
    rfl
  obtain ⟨later, more, -, -, grownToo, granting⟩ :=
    Act.InStep.keeps inStep answers (fun kept _ => kept) begun
  obtain rfl := List.append_cancel_left (grown.symm.trans grownToo)
  exact ⟨_, granting⟩

namespace Desk.Batches
variable {i : BackendId} {granted : Nat → Nat} {template : Template} {full : Failure}
  {requested created : Nat} {accepted : List SessionId} {result : Except Failure Unit}
  {heard : List Exchange}

/-- A service that grants something of each request, and never more than it is asked for, brings
just what is missing. -/
theorem of_granting (something : ∀ count, 0 < count → 0 < granted count)
    (noMore : ∀ count, granted count ≤ count)
    (batches : Batches i template full requested created accepted result heard) :
    ∀ {start last}, Granting i granted start heard last →
      result = .ok () ∧ accepted = namesFrom start (requested - created) := by
  induction batches with
  | filled =>
    intro start last _
    rw [Nat.sub_self]
    exact ⟨rfl, rfl⟩
  | failed missing e =>
    intro start last granting
    cases granting.of_batch.1
  | @empty created missing =>
    intro start last granting
    have brought := congrArg List.length (Except.ok.inj granting.of_batch.1)
    have positive := something (requested - created) (Nat.sub_pos_of_lt missing)
    rw [MemoryBackend.length_namesFrom] at brought
    exact (Nat.ne_of_lt positive brought).elim
  | @surplus created ids missing more =>
    intro start last granting
    have brought := congrArg List.length (Except.ok.inj granting.of_batch.1)
    have fewer := noMore (requested - created)
    rw [MemoryBackend.length_namesFrom] at brought
    omega
  | @next created accepted result heard ids missing some fits others ih =>
    intro start last granting
    obtain ⟨same, grantingRest⟩ := granting.of_batch
    obtain rfl := Except.ok.inj same
    obtain ⟨ok, rest⟩ := ih grantingRest
    have all : requested - created = granted (requested - created) +
        (requested - (created + granted (requested - created))) := by
      have fewer := noMore (requested - created)
      omega
    rw [MemoryBackend.length_namesFrom] at rest
    refine ⟨ok, ?_⟩
    rw [rest, ← MemoryBackend.namesFrom_add]
    exact congrArg (namesFrom start) all.symm

/-- In batches of some size it takes as many requests as such batches are missing. -/
theorem length_of_granting {limit : Nat} (positive : 0 < limit)
    (batches : Batches i template full requested created accepted result heard)
    (ok : result = .ok ()) :
    ∀ {start last}, Granting i (min · limit) start heard last →
      heard.length = (requested - created + (limit - 1)) / limit := by
  induction batches with
  | filled =>
    intro start last _
    rw [Nat.sub_self, Nat.zero_add]
    exact (Nat.div_eq_of_lt (Nat.sub_lt positive Nat.one_pos)).symm
  | failed => cases ok
  | empty => cases ok
  | surplus => cases ok
  | @next created accepted result heard ids missing some fits others ih =>
    intro start last granting
    obtain ⟨same, grantingRest⟩ := granting.of_batch
    obtain rfl := Except.ok.inj same
    have rest := ih ok grantingRest
    rw [MemoryBackend.length_namesFrom] at rest
    rw [List.length_cons, rest, ← Nat.add_div_right _ positive]
    -- A batch that is not full is the last.
    rcases Nat.le_total limit (requested - created) with more | last
    · rw [Nat.min_eq_right more]
      congr 1
      omega
    · rw [Nat.min_eq_left last]
      have none : requested - (created + (requested - created)) + (limit - 1) = limit - 1 := by
        omega
      have front : requested - created + (limit - 1) = requested - created - 1 + limit := by
        omega
      rw [none, front, Nat.add_div_right _ positive, Nat.add_div_right _ positive,
        Nat.div_eq_of_lt (by omega), Nat.div_eq_of_lt (by omega)]

end Desk.Batches
namespace MemoryBackend

/-- A service that creates no more than so many sessions at a time, or as many as it is asked
for. -/
def limitedTo (limit : Option Nat) (memory : MemoryBackend) : MemoryBackend :=
  { memory with batchLimit := limit }

end MemoryBackend

namespace Lending

/-- The surroundings as they are, but for the limit that a service has for batches. -/
def limited (l : Lending Fleet) (i : BackendId) (limit : Option Nat) : Env (Recorder Fleet) :=
  (l.step (.outside (Fleet.onMemory i (·.limitedTo limit)))).env

section
variable {l : Lending Fleet} {i : BackendId} {memory : MemoryBackend}

theorem limited_found (found : l.env.service.inner.backends[i]? = some (.reliable memory 0))
    (limit : Option Nat) : (l.limited i limit).service.inner.backends[i]? =
      some (.reliable (memory.limitedTo limit) 0) := by
  simp only [limited, step, Fleet.onMemory, Fleet.onBackend, List.getElem?_modify_eq, found]
  rfl

theorem limited_role (found : l.env.service.inner.backends[i]? = some (.reliable memory 0))
    (limit : Option Nat) : Service.role i (l.limited i limit).service = memory.role :=
  congrArg (Option.bind · fun backend : FaultyBackend => backend.inner.role)
    (limited_found found limit)

/-- A filling by a service that nothing hinders, with a limit and without. -/
theorem bind_limited (kind : l.pool.kind = .fixed ∨ l.pool.kind = .pinging)
    (stocked : l.pool.Stocked)
    (found : l.env.service.inner.backends[i]? = some (.reliable memory 0)) {limit : Nat}
    (positive : 0 < limit) :
    let whole := l.pool.bind i (l.limited i none)
    let inBatches := l.pool.bind i (l.limited i (some limit))
    let missing := l.pool.capacity - l.pool.sessions.length
    inBatches.1.1 = .ok () ∧ inBatches.1 = whole.1 ∧
      ∃ heard, inBatches.2.service.heard = l.heard ++ heard ∧
        Desk.Provisioned i (l.pool.desk.template.orRole memory.role) (.poolFull l.pool.capacity)
          missing inBatches.1.1 heard ∧
        heard.length = (missing + (limit - 1)) / limit := by
  intro whole inBatches missing
  have role := (limited_role found (some limit)).trans (limited_role found none).symm
  obtain ⟨heard, more, accepted, same, grown, grownToo, batches, batchesToo, agrees⟩ :=
    Pool.bind_agrees kind stocked i (l.limited i none) (l.limited i (some limit)) rfl role
  have inStep (R : Clock → Recorder Fleet → Recorder Fleet → Prop) (alike : TellsAlike R) :=
    l.pool.bind_inStep alike i
  obtain ⟨last, granting⟩ := Act.InStep.granting inStep (limited_found found none) grown
  obtain ⟨lastToo, grantingToo⟩ :=
    Act.InStep.granting inStep (limited_found found (some limit)) grownToo
  obtain ⟨ok, names⟩ := batches.of_granting (fun _ some => some) (fun _ => Nat.le_refl _) granting
  obtain ⟨okToo, namesToo⟩ := batchesToo.of_granting
    (fun _ some => Nat.lt_min.2 ⟨some, positive⟩) (fun _ => Nat.min_le_left _ _) grantingToo
  have calls := batchesToo.length_of_granting positive okToo grantingToo
  rw [Nat.sub_zero] at calls
  have result : inBatches.1 = whole.1 :=
    Prod.ext (okToo.trans ok.symm) (agrees (names.trans namesToo.symm))
  rw [limited_role found none] at batchesToo
  exact ⟨okToo, result, more, grownToo, batchesToo.provisioned, calls⟩

end

/-- In every run, filling a pool that keeps within its size asks for the sessions that are missing,
each time for as many as are missing still, and stores all that come in the order in which they
do. It ends well just if that many come; otherwise the last request failed, brought none, or brought
too many, and then the pool is full. And from a service in memory that nothing hinders, a filling
in batches of any size ends well and comes to the same as one without a limit, in so many
requests. -/
theorem play_fills_in_batches (strangers : List Session) (parts : PoolParts) (clock : Clock)
    (kind : parts.kind = .fixed ∨ parts.kind = .pinging) :
    (∀ (σ : Type) [Service σ] (services : σ) (ops : List (Op σ)) (backend : BackendId),
      let l := (startAmong strangers parts clock services).play ops
      let missing := parts.places - l.pool.sessions.length
      let template := l.pool.desk.template.orRole (Service.role backend l.env.service)
      let filled := l.pool.bind backend l.env
      l.pool.sessions.length ≤ parts.places ∧
      ∃ heard fresh, filled.2.service.heard = l.heard ++ heard ∧
        Desk.Provisioned backend template (.poolFull parts.places) missing filled.1.1 heard ∧
        List.Forall₂ (Session.BornAs backend template l.env.clock filled.2.clock)
          ((idsIssued heard).take missing) fresh ∧
        l.pool.FilledWith fresh l.env.clock filled.2.clock filled.1.2 ∧
        (missing ≤ (idsIssued heard).length → filled.1.2.sessions.length = parts.places)) ∧
    ∀ (services : Fleet) (ops : List (Op Fleet)) (i : BackendId) (memory : MemoryBackend)
      (limit : Nat),
      let l := (startAmong strangers parts clock services).play ops
      let missing := parts.places - l.pool.sessions.length
      l.env.service.inner.backends[i]? = some (.reliable memory 0) → 0 < limit →
        let whole := l.pool.bind i (l.limited i none)
        let inBatches := l.pool.bind i (l.limited i (some limit))
        inBatches.1.1 = .ok () ∧ inBatches.1 = whole.1 ∧
          ∃ heard, inBatches.2.service.heard = l.heard ++ heard ∧
            Desk.Provisioned i (l.pool.desk.template.orRole memory.role) (.poolFull parts.places)
              missing inBatches.1.1 heard ∧
            heard.length = (missing + (limit - 1)) / limit := by
  have here {σ : Type} [Service σ] (services : σ) (ops : List (Op σ)) :
      let l := (startAmong strangers parts clock services).play ops
      (l.pool.kind = .fixed ∨ l.pool.kind = .pinging) ∧ l.pool.Stocked ∧
        l.pool.capacity = parts.places ∧ l.pool.sessions.length ≤ parts.places := by
    refine ⟨?_, stocked_play ops (stocked_startAmong strangers parts clock services),
      startAmong_play_capacity strangers parts clock services ops,
      startAmong_play_stored strangers clock services ops ?_⟩
    · rw [startAmong_play_kind]
      exact kind
    · rintro same
      rw [same] at kind
      exact kind.elim nofun nofun
  constructor
  · intro σ _ services ops backend l missing template filled
    obtain ⟨kind, stocked, capacity, fits⟩ := here services ops
    have numbered := startAmong_play_numbered strangers parts clock services ops
    have provisions := Pool.bind_provisions kind stocked numbered (capacity ▸ fits) backend l.env
    rw [capacity] at provisions
    exact ⟨fits, provisions⟩
  · intro services ops i memory limit l missing found positive
    obtain ⟨kind, stocked, capacity, -⟩ := here services ops
    have whole := bind_limited kind stocked found positive
    rw [capacity] at whole
    exact whole

/-- Five sessions are missing beside one of another pool, and come by two. -/
theorem play_fills_in_batches_of_two :
    let parts := PoolParts.ofConfig { PoolConfig.standard with kind := .pinging, size := 6 }
    let stranger := Session.existing ⟨"stranger"⟩ 7 .empty Clock.running.now
    let memory := MemoryBackend.fresh none none false
    let services := Fleet.ofBackends [.reliable memory 0]
    let ops : List (Op Fleet) := [.put 0]
    let l := (startAmong [stranger] parts .running services).play ops
    ((parts.kind = .fixed ∨ parts.kind = .pinging) ∧
      l.env.service.inner.backends[0]? = some (.reliable memory 0) ∧ 0 < 2) ∧
      parts.places - l.pool.sessions.length = 5 ∧
      let inBatches := l.pool.bind 0 (l.limited 0 (some 2))
      inBatches.1.1 = .ok () ∧ inBatches.1 = (l.pool.bind 0 (l.limited 0 none)).1 ∧
        ∃ heard, inBatches.2.service.heard = l.heard ++ heard ∧ heard.length = 3 := by
  intro parts stranger memory services ops l
  have found : l.env.service.inner.backends[0]? = some (.reliable memory 0) := by decide +kernel
  have missing : parts.places - l.pool.sessions.length = 5 := by decide +kernel
  refine ⟨⟨.inr rfl, found, by decide⟩, missing, ?_⟩
  have fills := (play_fills_in_batches [stranger] parts .running (.inr rfl)).2 services ops 0
    memory 2
  have same : (startAmong [stranger] parts .running services).play ops = l := rfl
  rw [same] at fills
  obtain ⟨ok, alike, heard, grown, -, calls⟩ := fills found (by decide)
  rw [missing] at calls
  exact ⟨ok, alike, heard, grown, calls⟩

end Lending
end SessionPooling
