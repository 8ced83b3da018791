import SessionPooling.Proofs.Provision

/-! Asking for sessions in batches. Whatever the batches are that a service answers with, each
request asks for what is still missing, and in the end the store is as if all the sessions that it
took in had come in one batch; so it does not matter how they were divided. -/
namespace SessionPooling
variable {σ : Type}

/-- Begun when the clock shows `clock`, the work always has that result and ends when it shows
`ended`. -/
def Act.Gives {α : Type} (act : Act σ α) (clock : Clock) (result : α) (ended : Clock) : Prop :=
  ∀ env, env.clock = clock → (act env).1 = result ∧ (act env).2.clock = ended

theorem Act.ByClock.gives {α : Type} {act : Act σ α} {clock ended : Clock} {result : α}
    (byClock : act.ByClock) (yields : act.Yields clock result ended) :
    act.Gives clock result ended := by
  obtain ⟨other, rfl, rfl, rfl⟩ := yields
  exact fun env same => byClock.alike env other same

namespace Desk
variable {ρ : Type} {room : Nat → ρ → Prop} {adds : Instant → Session → ρ → ρ} {full : Failure}

/-- A way to store sessions that takes in as many as the store has room for, and refuses all
others for want of room. -/
structure Admits (room : Nat → ρ → Prop) (adds : Instant → Session → ρ → ρ) (full : Failure)
    (intake : Intake σ ρ) : Prop where
  byClock : ∀ session store, (intake session store).ByClock
  refuses : ∀ session {store}, room 0 store → ∀ env, (intake session store env).1 = .error full
  accepts : ∀ session {store places}, room (places + 1) store → ∀ env,
    (intake session store env).1 = .ok (adds env.clock.now session store)
  fills : ∀ session {store places}, room (places + 1) store → ∀ now,
    room places (adds now session store)

/-- Sessions under some names that are created and stored one after another, in a stretch of
time. -/
inductive InTurn (adds : Instant → Session → ρ → ρ) (backend : BackendId) (template : Template) :
    Instant → List SessionId → List Session → ρ → ρ → Instant → Prop where
  | done {begun store ended} (passed : begun ≤ ended) :
      InTurn adds backend template begun [] [] store store ended
  | next {begun created stored id ids fresh store after ended} (later : begun ≤ created)
      (thereupon : created ≤ stored)
      (others : InTurn adds backend template stored ids fresh
        (adds stored (.existing id backend template created) store) after ended) :
      InTurn adds backend template begun (id :: ids)
        (.existing id backend template created :: fresh) store after ended

namespace InTurn
variable {backend : BackendId} {template : Template} {earlier begun ended later : Instant}
  {ids : List SessionId} {fresh : List Session} {store after : ρ}

theorem since (inTurn : InTurn adds backend template begun ids fresh store after ended)
    (before : earlier ≤ begun) :
    InTurn adds backend template earlier ids fresh store after ended := by
  cases inTurn with
  | done passed => exact .done (Int.le_trans before passed)
  | next created stored others => exact .next (Int.le_trans before created) stored others

theorem upTo (inTurn : InTurn adds backend template begun ids fresh store after ended)
    (passed : ended ≤ later) : InTurn adds backend template begun ids fresh store after later := by
  induction inTurn with
  | done earlier => exact .done (Int.le_trans earlier passed)
  | next created stored others ih => exact .next created stored (ih passed)

theorem le (inTurn : InTurn adds backend template begun ids fresh store after ended) :
    begun ≤ ended := by
  induction inTurn with
  | done passed => exact passed
  | next created stored others ih => exact Int.le_trans created (Int.le_trans stored ih)

end InTurn

section
variable {intake : Intake σ ρ} (backend : BackendId) (template : Template)

/-- Storing the first of some sessions, after a look at the clock, and then the others. -/
theorem storeAll_cons (id : SessionId) (rest : List SessionId) (store : ρ) (env : Env σ) :
    storeAll intake backend template (id :: rest) store env =
      match intake (.existing id backend template env.clock.now) store (Act.now env).2 with
      | (.error e, ended) => ((.error e, store), ended)
      | (.ok next, ended) => storeAll intake backend template rest next ended := by
  simp only [storeAll, Bind.bind, StateT.bind, Act.now, Clock.look]
  rcases intake (.existing id backend template env.clock.now) store
    { env with clock := env.clock.wait Clock.glance } with ⟨result, ended⟩
  cases result with
  | error e => rfl
  | ok next => rfl

variable (intake) in
/-- Sessions that come in two batches are stored as if they came in one. -/
theorem storeAll_append (ids more : List SessionId) :
    ∀ (store : ρ) (env : Env σ), storeAll intake backend template (ids ++ more) store env =
      match storeAll intake backend template ids store env with
      | ((.error e, stored), ended) => ((.error e, stored), ended)
      | ((.ok _, stored), ended) => storeAll intake backend template more stored ended := by
  induction ids with
  | nil => exact fun _ _ => rfl
  | cons id rest ih =>
    intro store env
    rw [List.cons_append, storeAll_cons, storeAll_cons]
    rcases intake (.existing id backend template env.clock.now) store (Act.now env).2 with
      ⟨result, ended⟩
    cases result with
    | error e => rfl
    | ok next => exact ih next ended

theorem storeAll_append_gives {ids more : List SessionId} {store next : ρ} {clock mid ended : Clock}
    {result : Except Failure Unit × ρ}
    (first : (storeAll intake backend template ids store).Gives clock (.ok (), next) mid)
    (rest : (storeAll intake backend template more next).Gives mid result ended) :
    (storeAll intake backend template (ids ++ more) store).Gives clock result ended := by
  intro env now
  obtain ⟨stored, shown⟩ := first env now
  rw [storeAll_append]
  rcases told : storeAll intake backend template ids store env with ⟨stored', reached⟩
  rw [told] at stored shown
  obtain rfl : stored' = (.ok (), next) := stored
  exact rest reached shown

/-- As many sessions as there is room for are stored one after another. -/
theorem storeAll_of_room (admits : Admits room adds full intake) (ids : List SessionId) :
    ∀ {places store}, room places store → ids.length ≤ places → ∀ env,
      (storeAll intake backend template ids store env).1.1 = .ok () ∧
        room (places - ids.length) (storeAll intake backend template ids store env).1.2 ∧
        ∃ fresh, InTurn adds backend template env.clock.now ids fresh store
          (storeAll intake backend template ids store env).1.2
          (storeAll intake backend template ids store env).2.clock.now := by
  induction ids with
  | nil => exact fun roomy _ _ => ⟨rfl, roomy, [], .done (Int.le_refl _)⟩
  | cons id rest ih =>
    intro places store roomy fits env
    cases places with
    | zero => cases fits
    | succ places =>
      let session : Session := .existing id backend template env.clock.now
      have accepted := admits.accepts session roomy (Act.now env).2
      have passes := (admits.byClock session store).passes (Act.now env).2
      have roomyNext := admits.fills session roomy (Act.now env).2.clock.now
      rw [storeAll_cons, List.length_cons, Nat.add_sub_add_right]
      rcases told : intake session store (Act.now env).2 with ⟨result, ended⟩
      rw [told] at accepted passes
      obtain rfl : result = .ok (adds (Act.now env).2.clock.now session store) := accepted
      obtain ⟨ok, left, fresh, inTurn⟩ := ih roomyNext (Nat.le_of_succ_le_succ fits) ended
      have ticked := env.clock.now_le_wait Clock.glance
      exact ⟨ok, left, session :: fresh, .next (Int.le_refl _) ticked (inTurn.since passes.forward)⟩

/-- Of more sessions than there is room for, those that come first are stored. -/
theorem storeAll_of_surplus (admits : Admits room adds full intake) {ids : List SessionId}
    {places : Nat} {store : ρ} (roomy : room places store) (surplus : places < ids.length)
    (env : Env σ) :
    (storeAll intake backend template ids store env).1 =
      (.error full, (storeAll intake backend template (ids.take places) store env).1.2) ∧
      (storeAll intake backend template (ids.take places) store env).2.clock.Passes
        (storeAll intake backend template ids store env).2.clock := by
  obtain ⟨id, rest, split⟩ : ∃ id rest, ids.drop places = id :: rest := by
    refine List.exists_cons_of_ne_nil fun none => ?_
    have := List.drop_eq_nil_iff.1 none
    omega
  have length : (ids.take places).length = places := List.length_take_of_le (Nat.le_of_lt surplus)
  obtain ⟨ok, crowded, -⟩ := storeAll_of_room backend template admits (ids.take places) roomy
    (Nat.le_of_eq length) env
  rw [length, Nat.sub_self] at crowded
  have all := storeAll_append intake backend template (ids.take places) (id :: rest)
    store env
  rw [← split, List.take_append_drop] at all
  rcases first : storeAll intake backend template (ids.take places) store env with
    ⟨⟨result, stored⟩, ended⟩
  rw [first] at ok crowded all
  obtain rfl : result = .ok () := ok
  dsimp only at all crowded ⊢
  rw [all]
  constructor
  · have refused := admits.refuses (.existing id backend template ended.clock.now) crowded
      (Act.now ended).2
    rw [split, storeAll_cons]
    rcases told : intake (.existing id backend template ended.clock.now) stored
      (Act.now ended).2 with ⟨answer, final⟩
    rw [told] at refused
    obtain rfl : answer = .error full := refused
    rfl
  · exact (storeAll_byClock backend template admits.byClock _ stored).passes ended

/-- If storing a batch ends well, there was room for all of it. -/
theorem storeAll_fits (admits : Admits room adds full intake) {ids : List SessionId} {places : Nat}
    {store after : ρ} (roomy : room places store) {clock ended : Clock}
    (yields : (storeAll intake backend template ids store).Yields clock (.ok (), after) ended) :
    ids.length ≤ places ∧ room (places - ids.length) after := by
  obtain ⟨env, rfl, told, -⟩ := yields
  have fits : ids.length ≤ places := by
    refine Nat.le_of_not_lt fun surplus => ?_
    obtain ⟨refused, -⟩ := storeAll_of_surplus backend template admits roomy surplus env
    rw [told] at refused
    cases refused
  obtain ⟨-, left, -⟩ := storeAll_of_room backend template admits ids roomy fits env
  rw [told] at left
  exact ⟨fits, left⟩

/-- Otherwise those for which there was none have left no trace. -/
theorem storeAll_crowded (admits : Admits room adds full intake) {ids : List SessionId}
    {places : Nat} {store after : ρ} (roomy : room places store) {clock ended : Clock} {e : Failure}
    (yields : (storeAll intake backend template ids store).Yields clock (.error e, after) ended) :
    e = full ∧ places < ids.length ∧ ∃ mid, mid.Passes ended ∧
      (storeAll intake backend template (ids.take places) store).Gives clock (.ok (), after)
        mid := by
  obtain ⟨env, rfl, told, rfl⟩ := yields
  have surplus : places < ids.length := by
    refine Nat.lt_of_not_le fun fits => ?_
    obtain ⟨ok, -⟩ := storeAll_of_room backend template admits ids roomy fits env
    rw [told] at ok
    cases ok
  have length := List.length_take_of_le (Nat.le_of_lt surplus)
  obtain ⟨refused, passes⟩ := storeAll_of_surplus backend template admits roomy surplus env
  obtain ⟨ok, -⟩ := storeAll_of_room backend template admits (ids.take places) roomy
    (Nat.le_of_eq length) env
  rw [told] at refused
  obtain ⟨⟨⟩, same⟩ := Prod.mk.inj refused
  have byClock := storeAll_byClock backend template admits.byClock (ids.take places) store
  exact ⟨rfl, surplus, _, passes, byClock.gives ⟨env, rfl, Prod.ext ok same.symm, rfl⟩⟩

end

/-- The requests for what is missing of so many sessions, when some have been created already: the
names that are accepted, how it ends, and what is heard. -/
inductive Batches (backend : BackendId) (template : Template) (full : Failure) (requested : Nat) :
    (created : Nat) → List SessionId → Except Failure Unit → List Exchange → Prop where
  | filled : Batches backend template full requested requested [] (.ok ()) []
  | failed {created} (missing : created < requested) (e : Failure) :
      Batches backend template full requested created [] (.error e)
        [⟨backend, .batchCreate (requested - created) template, .error e⟩]
  | empty {created} (missing : created < requested) :
      Batches backend template full requested created [] (.error (emptyBatch created requested))
        [⟨backend, .batchCreate (requested - created) template, .ok []⟩]
  | surplus {created} {ids : List SessionId} (missing : created < requested)
      (more : requested - created < ids.length) :
      Batches backend template full requested created (ids.take (requested - created))
        (.error full) [⟨backend, .batchCreate (requested - created) template, .ok ids⟩]
  | next {created accepted result heard} {ids : List SessionId} (missing : created < requested)
      (some : ids ≠ []) (fits : ids.length ≤ requested - created)
      (others : Batches backend template full requested (created + ids.length) accepted result
        heard) :
      Batches backend template full requested created (ids ++ accepted) result
        (⟨backend, .batchCreate (requested - created) template, .ok ids⟩ :: heard)

/-- What fails when a request for sessions is answered like that, after some of those that are
requested have been created. -/
def batchFailure? (full : Failure) (requested created : Nat) : Exchange → Option Failure
  | ⟨_, .batchCreate _ _, .error e⟩ => some e
  | ⟨_, .batchCreate _ _, .ok []⟩ => some (emptyBatch created requested)
  | ⟨_, .batchCreate count _, .ok (id :: more)⟩ =>
    if count < (id :: more).length then some full else none
  | _ => none

namespace Batches
variable {backend : BackendId} {template : Template} {requested created : Nat}
  {accepted : List SessionId} {result : Except Failure Unit} {heard : List Exchange}

theorem accepted_eq
    (batches : Batches backend template full requested created accepted result heard) :
    accepted = (idsIssued heard).take (requested - created) := by
  induction batches with
  | filled => exact List.take_nil.symm
  | failed => exact List.take_nil.symm
  | empty => exact List.take_nil.symm
  | surplus => rw [idsIssued_batch]
  | @next created accepted result heard ids missing some fits others ih =>
    rw [idsIssued_batch_cons, List.take_append, List.take_of_length_le fits, Nat.sub_sub, ← ih]

/-- Each batch but the last brings a session. -/
theorem length_le
    (batches : Batches backend template full requested created accepted result heard) :
    heard.length ≤ requested - created := by
  induction batches with
  | filled => exact Nat.zero_le _
  | failed missing => exact Nat.sub_pos_of_lt missing
  | empty missing => exact Nat.sub_pos_of_lt missing
  | surplus missing => exact Nat.sub_pos_of_lt missing
  | @next created accepted result heard ids missing some fits others ih =>
    have := List.length_pos_of_ne_nil some
    rw [List.length_cons]
    omega

theorem ok_iff (batches : Batches backend template full requested created accepted result heard) :
    result = .ok () ↔ (idsIssued heard).length = requested - created := by
  induction batches with
  | filled => exact ⟨fun _ => (Nat.sub_self requested).symm, fun _ => rfl⟩
  | failed missing => exact ⟨nofun, fun none => (Nat.sub_ne_zero_of_lt missing none.symm).elim⟩
  | empty missing => exact ⟨nofun, fun none => (Nat.sub_ne_zero_of_lt missing none.symm).elim⟩
  | surplus missing more =>
    rw [idsIssued_batch]
    exact ⟨nofun, fun exact => (Nat.ne_of_gt more exact).elim⟩
  | @next created accepted result heard ids missing some fits others ih =>
    rw [ih, idsIssued_batch_cons, List.length_append]
    omega

/-- What comes after some of the requests is the requests for what they left missing. -/
theorem exists_later
    (batches : Batches backend template full requested created accepted result heard) :
    ∀ earlier call later, heard = earlier ++ call :: later → ∃ rest,
      Batches backend template full requested (created + (idsIssued earlier).length) rest result
        (call :: later) := by
  have last {created : Nat} {accepted : List SessionId} {result : Except Failure Unit}
      {only : Exchange}
      (batches : Batches backend template full requested created accepted result [only])
      (earlier : List Exchange) (call : Exchange) (later : List Exchange)
      (same : [only] = earlier ++ call :: later) : ∃ rest,
        Batches backend template full requested (created + (idsIssued earlier).length) rest result
          (call :: later) := by
    cases earlier with
    | nil =>
      rw [List.nil_append] at same
      rw [← same]
      exact ⟨accepted, batches⟩
    | cons head earlier => cases earlier <;> cases same
  induction batches with
  | filled => exact fun earlier _ _ same => by cases earlier <;> cases same
  | failed missing e => exact last (.failed missing e)
  | empty missing => exact last (.empty missing)
  | surplus missing more => exact last (.surplus missing more)
  | @next created accepted result heard ids missing some fits others ih =>
    intro earlier call later same
    cases earlier with
    | nil =>
      rw [List.nil_append] at same
      rw [← same]
      exact ⟨_, .next missing some fits others⟩
    | cons head earlier =>
      obtain ⟨rfl, behind⟩ := List.cons.inj same
      rw [idsIssued_batch_cons, List.length_append, ← Nat.add_assoc]
      exact ih earlier call later behind

/-- Each request is for what is missing at that moment. -/
theorem asks (batches : Batches backend template full requested created accepted result heard)
    {earlier later : List Exchange} {call : Exchange} (same : heard = earlier ++ call :: later) :
    created + (idsIssued earlier).length < requested ∧ call.backend = backend ∧
      call.request =
        .batchCreate (requested - (created + (idsIssued earlier).length)) template := by
  obtain ⟨rest, here⟩ := batches.exists_later earlier call later same
  cases here with
  | failed missing e => exact ⟨missing, rfl, rfl⟩
  | empty missing => exact ⟨missing, rfl, rfl⟩
  | surplus missing more => exact ⟨missing, rfl, rfl⟩
  | next missing some fits others => exact ⟨missing, rfl, rfl⟩

/-- A batch that is no good is the last, and its failure is how it ends. -/
theorem of_batchFailure
    (batches : Batches backend template full requested created accepted result heard)
    {earlier later : List Exchange} {call : Exchange} (same : heard = earlier ++ call :: later)
    {e : Failure} (failed : batchFailure? full requested (created + (idsIssued earlier).length)
      call = some e) :
    later = [] ∧ result = .error e := by
  obtain ⟨rest, here⟩ := batches.exists_later earlier call later same
  cases here with
  | failed missing told =>
    cases failed
    exact ⟨rfl, rfl⟩
  | empty missing =>
    cases failed
    exact ⟨rfl, rfl⟩
  | @surplus _ ids missing more =>
    cases ids with
    | nil => cases more
    | cons id others =>
      rw [batchFailure?, if_pos more] at failed
      cases failed
      exact ⟨rfl, rfl⟩
  | @next _ _ _ _ ids missing some fits others =>
    cases ids with
    | nil => exact (some rfl).elim
    | cons id others =>
      rw [batchFailure?, if_neg (Nat.not_lt_of_le fits)] at failed
      cases failed

/-- How it ends badly is the failure of the last batch. -/
theorem exists_batchFailure {e : Failure}
    (batches : Batches backend template full requested created accepted (.error e) heard) :
    ∃ earlier call, heard = earlier ++ [call] ∧
      batchFailure? full requested (created + (idsIssued earlier).length) call = some e := by
  generalize same : (.error e : Except Failure Unit) = result at batches
  induction batches with
  | filled => cases same
  | failed missing told =>
    cases same
    exact ⟨[], _, rfl, rfl⟩
  | empty missing =>
    cases same
    exact ⟨[], _, rfl, rfl⟩
  | @surplus created ids missing more =>
    cases same
    refine ⟨[], _, rfl, ?_⟩
    cases ids with
    | nil => cases more
    | cons id others => exact if_pos more
  | @next created accepted result heard ids missing some fits others ih =>
    obtain ⟨earlier, call, rfl, failed⟩ := ih same
    refine ⟨⟨backend, .batchCreate (requested - created) template, .ok ids⟩ :: earlier, call, rfl,
      ?_⟩
    rw [idsIssued_batch_cons, List.length_append, ← Nat.add_assoc]
    exact failed

end Batches

/-- A filling of so many places. There are no more requests than sessions are missing, each is for
what is missing at that moment, and it ends well just if that many sessions come; otherwise the
last request failed, brought none or brought too many, and that is how it ends. -/
structure Provisioned (backend : BackendId) (template : Template) (full : Failure) (missing : Nat)
    (result : Except Failure Unit) (heard : List Exchange) : Prop where
  calls : heard.length ≤ missing
  asks : ∀ earlier call later, heard = earlier ++ call :: later →
    (idsIssued earlier).length < missing ∧ call.backend = backend ∧
      call.request = .batchCreate (missing - (idsIssued earlier).length) template
  ok_iff : result = .ok () ↔ (idsIssued heard).length = missing
  fails : ∀ earlier call later e, heard = earlier ++ call :: later →
    batchFailure? full missing (idsIssued earlier).length call = some e →
      later = [] ∧ result = .error e
  failed : ∀ e, result = .error e → ∃ earlier call, heard = earlier ++ [call] ∧
    batchFailure? full missing (idsIssued earlier).length call = some e

theorem Batches.provisioned {backend : BackendId} {template : Template} {missing : Nat}
    {accepted : List SessionId} {result : Except Failure Unit} {heard : List Exchange}
    (batches : Batches backend template full missing 0 accepted result heard) :
    Provisioned backend template full missing result heard := by
  refine ⟨batches.length_le, fun earlier call later same => ?_, batches.ok_iff,
    fun earlier call later e same failed => ?_, fun e ended => ?_⟩
  · have asked := batches.asks same
    rwa [Nat.zero_add] at asked
  · rw [← Nat.zero_add (idsIssued earlier).length] at failed
    exact batches.of_batchFailure same failed
  · subst ended
    obtain ⟨earlier, call, same, failed⟩ := batches.exists_batchFailure
    rw [Nat.zero_add] at failed
    exact ⟨earlier, call, same, failed⟩

section
variable {intake : Intake (Recorder σ) ρ} {backend : BackendId} {template : Template}
  {requested : Nat} {clock ended : Clock} {store after : ρ} {heard : List Exchange}

/-- By induction on the rounds: what the first batch stores is where the others go on, and storing
takes no notice of what the services do in between. -/
theorem Rounds.batches (admits : Admits room adds full intake) {created : Nat}
    {result : Except Failure Nat}
    (rounds : Rounds intake backend template requested created clock store result after heard ended)
    (fewer : created ≤ requested) (roomy : room (requested - created) store) :
    ∃ accepted mid, mid.Passes ended ∧
      Batches backend template full requested created accepted (result.map fun _ => ()) heard ∧
      (storeAll intake backend template accepted store).Gives clock (.ok (), after) mid := by
  have nothing (clock : Clock) (store : ρ) :
      (storeAll intake backend template [] store).Gives clock (.ok (), store) clock :=
    fun env now => ⟨rfl, now⟩
  induction rounds with
  | enough enough =>
    obtain rfl := Nat.le_antisymm fewer enough
    exact ⟨[], _, .refl _, .filled, nothing _ _⟩
  | failed missing e => exact ⟨[], _, .refl _, .failed missing e, nothing _ _⟩
  | empty missing => exact ⟨[], _, .refl _, .empty missing, nothing _ _⟩
  | refused missing some stored =>
    obtain ⟨rfl, surplus, mid, passes, gives⟩ :=
      storeAll_crowded backend template admits roomy stored
    exact ⟨_, mid, passes, .surplus missing surplus, gives⟩
  | @next _ _ _ _ _ _ _ _ _ ids missing some stored others ih =>
    obtain ⟨fits, left⟩ := storeAll_fits backend template admits roomy stored
    rw [Nat.sub_sub] at left
    obtain ⟨accepted, mid, passes, batches, gives⟩ := ih (by omega) left
    have first := (storeAll_byClock backend template admits.byClock ids _).gives stored
    exact ⟨_, mid, passes, .next missing some fits batches,
      storeAll_append_gives backend template first gives⟩

theorem Provisions.batches (admits : Admits room adds full intake) {desk : Desk}
    {role : BackendId → Option String} {result : Except Failure Unit}
    (provisions : Provisions intake desk role requested clock store result after heard ended)
    (bound : desk.backend = some backend) (roomy : room requested store) :
    ∃ accepted mid, mid.Passes ended ∧
      Batches backend (desk.template.orRole (role backend)) full requested 0 accepted result heard ∧
      (storeAll intake backend (desk.template.orRole (role backend)) accepted store).Gives clock
        (.ok (), after) mid := by
  cases provisions with
  | full none =>
    subst none
    exact ⟨[], _, .refl _, .filled, fun env now => ⟨rfl, now⟩⟩
  | unbound missing unbound => cases unbound.symm.trans bound
  | rounds missing found rounds =>
    obtain rfl := Option.some.inj (found.symm.trans bound)
    exact rounds.batches admits (Nat.zero_le _) roomy

end

variable [Service σ] {intake : Intake (Recorder σ) ρ}

/-- Filling goes by batches that are asked for with one template, and the sessions that get in
are stored as if they had come in one batch. -/
theorem provision_batches (admits : Admits room adds full intake) {desk : Desk}
    {backend : BackendId} (bound : desk.backend = some backend) (requested : Nat) {store : ρ}
    (roomy : room requested store) (env : Env (Recorder σ)) :
    let template := desk.template.orRole (Service.role backend env.service)
    let filled := desk.provision intake requested store env
    ∃ heard accepted mid, filled.2.service.heard = env.service.heard ++ heard ∧
      env.clock.Passes filled.2.clock ∧ mid.Passes filled.2.clock ∧
      Batches backend template full requested 0 accepted filled.1.1 heard ∧
      (storeAll intake backend template accepted store).Gives env.clock (.ok (), filled.1.2)
        mid := by
  intro template filled
  obtain ⟨heard, grown, passes, provisions⟩ :=
    provision_provisions admits.byClock desk requested store env
  obtain ⟨accepted, mid, passesMid, batches, gives⟩ := provisions.batches admits bound roomy
  exact ⟨heard, accepted, mid, grown, passes, passesMid, batches, gives⟩

/-- At one time, from services that give the same role, two fillings of a store that accept the
same names end with the same store, whatever the batches were. -/
theorem provision_agrees (admits : Admits room adds full intake) {desk : Desk}
    {backend : BackendId} (bound : desk.backend = some backend) (requested : Nat) {store : ρ}
    (roomy : room requested store) {env other : Env (Recorder σ)} (clock : other.clock = env.clock)
    (role : Service.role backend other.service = Service.role backend env.service) :
    let template := desk.template.orRole (Service.role backend env.service)
    let filled := desk.provision intake requested store env
    let again := desk.provision intake requested store other
    ∃ heard more accepted same, filled.2.service.heard = env.service.heard ++ heard ∧
      again.2.service.heard = other.service.heard ++ more ∧
      Batches backend template full requested 0 accepted filled.1.1 heard ∧
      Batches backend template full requested 0 same again.1.1 more ∧
      (accepted = same → again.1.2 = filled.1.2) := by
  intro template filled again
  obtain ⟨heard, accepted, _, grown, -, -, batches, gives⟩ :=
    provision_batches admits bound requested roomy env
  obtain ⟨more, same, _, grownToo, -, -, batchesToo, givesToo⟩ :=
    provision_batches admits bound requested roomy other
  rw [role] at batchesToo givesToo
  refine ⟨heard, more, accepted, same, grown, grownToo, batches, batchesToo, ?_⟩
  rintro rfl
  have stored := (givesToo env clock.symm).1.symm.trans (gives env rfl).1
  exact (Prod.mk.inj stored).2

theorem provision_inTurn (admits : Admits room adds full intake) {desk : Desk}
    {backend : BackendId} (bound : desk.backend = some backend) (requested : Nat) {store : ρ}
    (roomy : room requested store) (env : Env (Recorder σ)) :
    let template := desk.template.orRole (Service.role backend env.service)
    let filled := desk.provision intake requested store env
    ∃ heard accepted fresh, filled.2.service.heard = env.service.heard ++ heard ∧
      env.clock.Passes filled.2.clock ∧
      Batches backend template full requested 0 accepted filled.1.1 heard ∧
      InTurn adds backend template env.clock.now accepted fresh store filled.1.2
        filled.2.clock.now := by
  intro template filled
  obtain ⟨heard, accepted, mid, grown, passes, passesMid, batches, gives⟩ :=
    provision_batches admits bound requested roomy env
  have few : accepted.length ≤ requested := by
    rw [batches.accepted_eq]
    exact List.length_take_le requested _
  obtain ⟨-, -, fresh, inTurn⟩ := storeAll_of_room backend template admits accepted roomy few env
  obtain ⟨stored, shown⟩ := gives env rfl
  rw [stored, shown] at inTurn
  exact ⟨heard, accepted, fresh, grown, passes, batches, inTurn.upTo passesMid.forward⟩

end Desk
end SessionPooling
