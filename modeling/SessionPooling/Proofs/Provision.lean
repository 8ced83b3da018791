import SessionPooling.Proofs.Timing

/-! Filling a store. What filling does, round by round, is said once; whatever the store and
however many sessions a service creates at a time, it follows that what is stored in the end are
the sessions from before and new ones, under names that were given out meanwhile: at least as many
as were missing when filling succeeds, and never more when no answer brings more than it was asked
for. -/
namespace SessionPooling.Desk
variable {σ ρ : Type} {view : ρ → List Session} {keeps : ρ → Prop}
  {intake : Intake (Recorder σ) ρ}

/-- A way to store sessions asks for nothing, adds just the session that it stores, and keeps
up what holds of the store. -/
def StoresInto (view : ρ → List Session) (keeps : ρ → Prop) (intake : Intake (Recorder σ) ρ) :
    Prop :=
  ∀ session store, keeps store → (intake session store).Hears fun result heard =>
    heard = [] ∧ ∀ stored, result = .ok stored →
      keeps stored ∧ (view stored).Perm (session :: view store)

/-- The store refuses a session. -/
def Refuses (intake : Intake (Recorder σ) ρ) (store : ρ) : Prop :=
  ∃ session env e, (intake session store env).1 = .error e

/-- Of the sessions that a service created, those that came first are stored: all of them, unless
the store refused one, and then storing them is not done. -/
def Entered (view : ρ → List Session) (intake : Intake (Recorder σ) ρ) (backend : BackendId)
    (ids : List SessionId) (before after : ρ) (done : Prop) : Prop :=
  ∃ fresh : List Session, (view after).Perm (fresh ++ view before) ∧
    fresh.map Session.handle <+: ids.map (fun id => (backend, some id)) ∧
    (fresh.length < ids.length → ¬ done ∧ Refuses intake after)

namespace Entered
variable {backend : BackendId} {ids more : List SessionId} {before mid after : ρ} {done : Prop}

theorem nothing (store : ρ) : Entered view intake backend [] store store done :=
  ⟨[], .refl _, List.prefix_refl _, fun fewer => (Nat.lt_irrefl _ fewer).elim⟩

theorem refused (store : ρ) (refuses : Refuses intake store) (notDone : ¬ done) :
    Entered view intake backend ids store store done :=
  ⟨[], .refl _, List.nil_prefix, fun _ => ⟨notDone, refuses⟩⟩

theorem mono {done' : Prop} (entered : Entered view intake backend ids before after done)
    (weaker : done' → done) : Entered view intake backend ids before after done' := by
  obtain ⟨fresh, grown, names, left⟩ := entered
  refine ⟨fresh, grown, names, fun fewer => ?_⟩
  obtain ⟨notDone, refuses⟩ := left fewer
  exact ⟨fun ends => notDone (weaker ends), refuses⟩

/-- Those that come after others, all of which were stored. -/
theorem append (first : Entered view intake backend ids before mid True)
    (rest : Entered view intake backend more mid after done) :
    Entered view intake backend (ids ++ more) before after done := by
  obtain ⟨fresh, grown, names, left⟩ := first
  obtain ⟨others, grownMore, namesMore, leftMore⟩ := rest
  have all : fresh.length = ids.length := by
    refine Nat.le_antisymm ?_ (Nat.le_of_not_lt fun fewer => (left fewer).1 trivial)
    simpa only [List.length_map] using names.length_le
  have same : fresh.map Session.handle = ids.map fun id => (backend, some id) :=
    names.eq_of_length (by rw [List.length_map, List.length_map, all])
  refine ⟨fresh ++ others, ?_, ?_, fun fewer => ?_⟩
  · refine grownMore.trans ((grown.append_left others).trans ?_)
    rw [← List.append_assoc]
    exact List.perm_append_comm.append_right _
  · rw [List.map_append, List.map_append, same]
    exact (List.prefix_append_right_inj _).2 namesMore
  · rw [List.length_append, List.length_append, all] at fewer
    exact leftMore (Nat.lt_of_add_lt_add_left fewer)

end Entered

section
variable (backend : BackendId) (template : Template)

theorem storeAll_byClock {σ : Type} {intake : Intake σ ρ}
    (byClock : ∀ session store, (intake session store).ByClock) (ids : List SessionId) :
    ∀ store, (storeAll intake backend template ids store).ByClock := by
  induction ids with
  | nil => exact fun store => .pure _
  | cons id rest ih =>
    intro store
    refine .bind .now fun now => .bind (byClock _ store) fun result => ?_
    cases result with
    | error e => exact .pure _
    | ok next => exact ih next

theorem storeAll_entered (stores : StoresInto view keeps intake) (ids : List SessionId) :
    ∀ store, keeps store → (storeAll intake backend template ids store).Hears fun r heard =>
      heard = [] ∧ keeps r.2 ∧ Entered view intake backend ids store r.2 (r.1 = .ok ()) := by
  induction ids with
  | nil => exact fun store kept => .pure ⟨rfl, kept, .nothing store⟩
  | cons id rest ih =>
    intro store kept
    refine .silently (fun _ => rfl) fun now => ?_
    refine .bind (stores _ store kept).attained ?_
    rintro result _ ⟨⟨rfl, stored⟩, env, told⟩
    cases result with
    | error e => exact .pure ⟨rfl, kept, .refused store ⟨_, env, e, told⟩ nofun⟩
    | ok next =>
      obtain ⟨keptNext, added⟩ := stored next rfl
      have one : Entered view intake backend [id] store next True :=
        ⟨[.existing id backend template now], added, List.prefix_refl _,
          fun fewer => (Nat.lt_irrefl _ fewer).elim⟩
      refine (ih next keptNext).mono ?_
      rintro r heard ⟨rfl, keptFinal, entered⟩
      exact ⟨rfl, keptFinal, one.append entered⟩

end

/-- The rounds of asking for what is missing of so many sessions, when some have been created
already: how they end, with what store, and what is heard. -/
inductive Rounds (intake : Intake (Recorder σ) ρ) (backend : BackendId) (template : Template)
    (requested : Nat) :
    Nat → Clock → ρ → Except Failure Nat → ρ → List Exchange → Clock → Prop where
  | enough {created clock store} (full : requested ≤ created) :
      Rounds intake backend template requested created clock store (.ok created) store [] clock
  | failed {created clock store} (missing : created < requested) (e : Failure) :
      Rounds intake backend template requested created clock store (.error e) store
        [⟨backend, .batchCreate (requested - created) template, .error e⟩] clock
  | empty {created clock store} (missing : created < requested) :
      Rounds intake backend template requested created clock store
        (.error (emptyBatch created requested)) store
        [⟨backend, .batchCreate (requested - created) template, .ok []⟩] clock
  | refused {created clock store e after ended} {ids : List SessionId}
      (missing : created < requested) (some : ids ≠ [])
      (stored : (storeAll intake backend template ids store).Yields clock (.error e, after) ended) :
      Rounds intake backend template requested created clock store (.error e) after
        [⟨backend, .batchCreate (requested - created) template, .ok ids⟩] ended
  | next {created clock store mid next result after heard ended} {ids : List SessionId}
      (missing : created < requested) (some : ids ≠ [])
      (stored : (storeAll intake backend template ids store).Yields clock (.ok (), next) mid)
      (others : Rounds intake backend template requested (created + ids.length) mid next result
        after heard ended) :
      Rounds intake backend template requested created clock store result after
        (⟨backend, .batchCreate (requested - created) template, .ok ids⟩ :: heard) ended

/-- What filling a store does, at services that give sessions those roles. -/
inductive Provisions (intake : Intake (Recorder σ) ρ) (desk : Desk)
    (role : BackendId → Option String) (requested : Nat) (clock : Clock) (store : ρ) :
    Except Failure Unit → ρ → List Exchange → Clock → Prop where
  | full (none : requested = 0) :
      Provisions intake desk role requested clock store (.ok ()) store [] clock
  | unbound (missing : requested ≠ 0) (unbound : desk.backend = none) :
      Provisions intake desk role requested clock store (.error .notBound) store [] clock
  | rounds {backend total after heard ended} (missing : requested ≠ 0)
      (bound : desk.backend = some backend)
      (rounds : Rounds intake backend (desk.template.orRole (role backend)) requested 0 clock store
        total after heard ended) :
      Provisions intake desk role requested clock store (total.map fun _ => ()) after heard ended

section
variable [Service σ]

/-- The number of rounds that is given is never used up: as long as something is missing one is
left, and each brings at least one session. -/
theorem provisionRounds_rounds (byClock : ∀ session store, (intake session store).ByClock)
    (desk : Desk) (backend : BackendId) (template : Template) (requested rounds : Nat) :
    ∀ {created : Nat}, requested - created ≤ rounds → ∀ clock store,
      (desk.provisionRounds intake backend template requested rounds created store).HearsFrom clock
        [] fun r heard ended =>
          Rounds intake backend template requested created clock store r.1 r.2 heard ended := by
  induction rounds with
  | zero =>
    intro created enough clock store
    exact .pure (.enough (Nat.le_of_sub_eq_zero (Nat.le_zero.1 enough)))
  | succ rounds ih =>
    intro created enough clock store
    unfold provisionRounds
    split
    case isFalse notMissing => exact .pure (.enough (Nat.le_of_not_lt notMissing))
    case isTrue missing =>
      apply Act.HearsFrom.asking
      intro reply
      cases reply with
      | error e => exact .pure (.failed missing e)
      | ok ids =>
        cases ids with
        | nil => exact .pure (.empty missing)
        | cons id more =>
          apply Act.HearsFrom.silently (fun _ => rfl) (fun _ => rfl)
          intro _
          have storing := storeAll_byClock backend template byClock (id :: more) store
          refine .bind (storing.hearsFrom clock) ?_
          rintro ⟨result, stored⟩ _ mid - ⟨rfl, yields⟩
          cases result with
          | error e => exact .pure (.refused missing (List.cons_ne_nil id more) yields)
          | ok _ =>
            apply (ih (by rw [List.length_cons]; omega) mid stored).behind
            exact fun r heard ended others =>
              .next missing (List.cons_ne_nil id more) yields others

theorem resolvedTemplate_bind {α : Type} (desk : Desk) (backend : BackendId)
    (next : Template → Act (Recorder σ) α) (env : Env (Recorder σ)) :
    (desk.resolvedTemplate backend >>= next) env =
      next (desk.template.orRole (Service.role backend env.service)) env := rfl

theorem provision_provisions (byClock : ∀ session store, (intake session store).ByClock)
    (desk : Desk) (requested : Nat) (store : ρ) (env : Env (Recorder σ)) :
    let filled := desk.provision intake requested store env
    ∃ heard, filled.2.service.heard = env.service.heard ++ heard ∧
      env.clock.Passes filled.2.clock ∧
      Provisions intake desk (Service.role · env.service) requested env.clock store filled.1.1
        filled.1.2 heard filled.2.clock := by
  intro filled
  by_cases missing : requested = 0
  · subst missing
    exact ⟨[], (List.append_nil _).symm, .refl _, .full rfl⟩
  cases bound : desk.backend with
  | none =>
    simp only [filled, provision, if_neg missing, bound]
    exact ⟨[], (List.append_nil _).symm, .refl _, .unbound missing bound⟩
  | some backend =>
    simp only [filled, provision, if_neg missing, bound, resolvedTemplate_bind]
    refine Act.HearsFrom.apply (P := fun (r : Except Failure Unit × ρ) heard ended =>
      Provisions intake desk (Service.role · env.service) requested env.clock store r.1 r.2 heard
        ended) ?_
    apply Act.HearsFrom.silently (fun _ => rfl) (fun _ => rfl)
    intro _
    refine .bind (provisionRounds_rounds byClock desk backend _ requested requested
      (Nat.le_refl _) env.clock store) ?_
    rintro ⟨total, after⟩ heard ended - rounds
    have provisions : Provisions intake desk (Service.role · env.service) requested env.clock store
        (total.map fun _ => ()) after heard ended := .rounds missing bound rounds
    cases total with
    | error e => exact .pure provisions
    | ok total => exact .silently (fun _ => rfl) (fun _ => rfl) fun _ => .pure provisions

end

/-- The service created no more sessions at a time than it was asked for. -/
def Measured (heard : List Exchange) : Prop := ∀ e ∈ heard, e.measured

instance (heard : List Exchange) : Decidable (Measured heard) :=
  inferInstanceAs (Decidable (∀ e ∈ heard, e.measured))

theorem Measured.subset {heard more : List Exchange} (measured : Measured more)
    (fewer : heard ⊆ more) : Measured heard :=
  fun e member => measured e (fewer member)

theorem Measured.length_le {heard : List Exchange} {backend : BackendId} {count : Nat}
    {template : Template} {ids : List SessionId}
    (measured : Measured (⟨backend, .batchCreate count template, .ok ids⟩ :: heard)) :
    ids.length ≤ count :=
  of_decide_eq_true (measured _ List.mem_cons_self)

namespace Rounds
variable {backend : BackendId} {template : Template} {requested created : Nat}
  {clock ended : Clock} {store after : ρ} {result : Except Failure Nat} {heard : List Exchange}

theorem quiet (rounds : Rounds intake backend template requested created clock store result after
    heard ended) : creationsRefused heard = 0 := by
  induction rounds with
  | enough => rfl
  | failed => rfl
  | empty => rfl
  | refused => rfl
  | next missing some stored others ih =>
    exact (creationsRefused_append [_] _).trans (Nat.add_eq_zero_iff.2 ⟨rfl, ih⟩)

/-- No more sessions are created than are missing, by services that never create more at a time
than they are asked for: each round asks for what the rounds before it left missing. -/
theorem issued_le (rounds : Rounds intake backend template requested created clock store result
    after heard ended) (measured : Measured heard) :
    (idsIssued heard).length ≤ requested - created := by
  induction rounds with
  | enough => exact Nat.zero_le _
  | failed => exact Nat.zero_le _
  | empty => exact Nat.zero_le _
  | refused missing some stored =>
    rw [idsIssued_batch]
    exact measured.length_le
  | next missing some stored others ih =>
    have asked := measured.length_le
    have rest := ih (measured.subset (List.subset_cons_self _ _))
    rw [idsIssued_batch_cons, List.length_append]
    omega

theorem le_issued (rounds : Rounds intake backend template requested created clock store result
    after heard ended) (done : ∃ total, result = .ok total) :
    requested - created ≤ (idsIssued heard).length := by
  induction rounds with
  | enough full => exact Nat.le_of_eq (Nat.sub_eq_zero_of_le full)
  | failed => obtain ⟨_, ⟨⟩⟩ := done
  | empty => obtain ⟨_, ⟨⟩⟩ := done
  | refused => obtain ⟨_, ⟨⟩⟩ := done
  | next missing some stored others ih =>
    have rest := ih done
    rw [idsIssued_batch_cons, List.length_append]
    omega

/-- By induction on the rounds: each but the last stores all that it brings. -/
theorem entered (stores : StoresInto view keeps intake) (rounds : Rounds intake backend template
    requested created clock store result after heard ended) (kept : keeps store) :
    keeps after ∧ Entered view intake backend (idsIssued heard) store after
      (∃ total, result = .ok total) := by
  induction rounds with
  | enough => exact ⟨kept, .nothing _⟩
  | failed => exact ⟨kept, .nothing _⟩
  | empty => exact ⟨kept, .nothing _⟩
  | @refused _ _ _ _ _ _ ids missing some stored =>
    obtain ⟨_, -, keptAfter, entered⟩ :=
      stored.of_hears (storeAll_entered backend template stores ids _ kept)
    rw [idsIssued_batch]
    refine ⟨keptAfter, entered.mono ?_⟩
    rintro ⟨_, ⟨⟩⟩
  | @next _ _ _ _ _ _ _ _ _ ids missing some stored others ih =>
    obtain ⟨_, -, keptNext, entered⟩ :=
      stored.of_hears (storeAll_entered backend template stores ids _ kept)
    obtain ⟨keptAfter, rest⟩ := ih keptNext
    rw [idsIssued_batch_cons]
    exact ⟨keptAfter, (entered.mono fun _ => rfl).append rest⟩

end Rounds

/-- What the attempt to add `missing` sessions to a store does. -/
structure Filled (view : ρ → List Session) (missing : Nat) (before after : ρ) (done : Prop)
    (heard : List Exchange) : Prop where
  quiet : creationsRefused heard = 0
  exists_fresh : ∃ fresh : List Session, (view after).Perm (fresh ++ view before) ∧
    (fresh.map Session.id?).Subperm ((idsIssued heard).map some) ∧
    (Measured heard → fresh.length ≤ missing) ∧ (done → missing ≤ fresh.length)

namespace Filled
variable {missing : Nat} {before after : ρ} {done : Prop} {heard : List Exchange}

theorem none (store : ρ) (notDone : ¬ done) : Filled view missing store store done [] :=
  ⟨rfl, [], .refl _, List.nil_subperm, fun _ => Nat.zero_le _, fun ends => (notDone ends).elim⟩

theorem enough (store : ρ) (full : missing = 0) : Filled view missing store store done [] :=
  ⟨rfl, [], .refl _, List.nil_subperm, fun _ => Nat.zero_le _, fun _ => full ▸ Nat.le_refl _⟩

theorem turnover (filled : Filled view missing before after done heard) :
    Turnover False True (view before) (view after) heard := by
  obtain ⟨-, fresh, grown, names, -, -⟩ := filled
  refine ⟨?_, False.elim, False.elim⟩
  rw [(grown.map Session.id?).subperm_right, List.map_append, List.perm_append_comm.subperm_right]
  exact (List.subperm_append_left _).2 names

theorem length_le (filled : Filled view missing before after done heard)
    (measured : Measured heard) : (view after).length ≤ missing + (view before).length := by
  obtain ⟨-, fresh, grown, -, atMost, -⟩ := filled
  have := atMost measured
  rw [grown.length_eq, List.length_append]
  omega

theorem le_length (filled : Filled view missing before after done heard) (finished : done) :
    missing + (view before).length ≤ (view after).length := by
  obtain ⟨-, fresh, grown, -, -, full⟩ := filled
  have := full finished
  rw [grown.length_eq, List.length_append]
  omega

end Filled

namespace Provisions
variable {desk : Desk} {role : BackendId → Option String} {requested : Nat}
  {clock ended : Clock} {store after : ρ} {result : Except Failure Unit} {heard : List Exchange}

theorem issued_le
    (provisions : Provisions intake desk role requested clock store result after heard ended)
    (measured : Measured heard) : (idsIssued heard).length ≤ requested := by
  cases provisions with
  | full => exact Nat.zero_le _
  | unbound => exact Nat.zero_le _
  | rounds missing bound rounds => exact rounds.issued_le measured

theorem filled (stores : StoresInto view keeps intake)
    (provisions : Provisions intake desk role requested clock store result after heard ended)
    (kept : keeps store) :
    keeps after ∧ Filled view requested store after (result = .ok ()) heard := by
  cases provisions with
  | full none => exact ⟨kept, .enough store none⟩
  | unbound => exact ⟨kept, .none store nofun⟩
  | @rounds backend total _ _ _ missing bound rounds =>
    obtain ⟨keptAfter, fresh, grown, names, left⟩ := rounds.entered stores kept
    have ids : (fresh.map Session.id?) <+: (idsIssued heard).map some := by
      have seconds := names.map Prod.snd
      rwa [List.map_map, List.map_map] at seconds
    refine ⟨keptAfter, rounds.quiet, fresh, grown, ids.sublist.subperm, fun measured => ?_,
      fun done => ?_⟩
    · have fewer := ids.length_le
      rw [List.length_map, List.length_map] at fewer
      exact Nat.le_trans fewer (rounds.issued_le measured)
    · have finished : ∃ total', total = .ok total' := by
        cases total with
        | error e => cases done
        | ok total => exact ⟨total, rfl⟩
      refine Nat.le_trans (rounds.le_issued finished) (Nat.le_of_not_lt fun fewer => ?_)
      exact (left fewer).1 finished

end Provisions

variable [Service σ]

/-- Filling the store of a pool. Success leaves nothing missing. -/
theorem provision_filled (byClock : ∀ session store, (intake session store).ByClock)
    (stores : StoresInto view keeps intake) (desk : Desk) (requested : Nat) (store : ρ)
    (kept : keeps store) :
    (desk.provision intake requested store).Hears fun r heard =>
      keeps r.2 ∧ Filled view requested store r.2 (r.1 = .ok ()) heard := by
  intro env
  obtain ⟨heard, grown, -, provisions⟩ := provision_provisions byClock desk requested store env
  exact ⟨heard, grown, provisions.filled stores kept⟩

theorem provision_issues (byClock : ∀ session store, (intake session store).ByClock) (desk : Desk)
    (requested : Nat) (store : ρ) :
    (desk.provision intake requested store).Hears
      fun _ heard => Measured heard → (idsIssued heard).length ≤ requested := by
  intro env
  obtain ⟨heard, grown, -, provisions⟩ := provision_provisions byClock desk requested store env
  exact ⟨heard, grown, provisions.issued_le⟩

section
variable {held : Clock → ρ → Prop}

/-- What holds of a store, by the clock, goes on to hold when nothing is stored or a new session
is. -/
structure KeepsUp (keeps : Clock → ρ → Prop) (intake : Intake (Recorder σ) ρ) : Prop where
  lasts : ∀ {begun ended : Clock} {store : ρ}, begun.Passes ended → keeps begun store →
    keeps ended store
  /-- A session is stored after a look at the clock, which is when it was created. -/
  stores : ∀ id backend template (clock : Clock) store, keeps (clock.wait Clock.glance) store →
    (intake (.existing id backend template clock.now) store).HearsFrom (clock.wait Clock.glance) []
      fun result _ ended => ∀ stored, result = .ok stored → keeps ended stored

omit [Service σ] in
theorem storeAll_keeps (keepsUp : KeepsUp held intake) (backend : BackendId)
    (template : Template) (ids : List SessionId) :
    ∀ (clock : Clock) (store : ρ), held clock store →
      (storeAll intake backend template ids store).HearsFrom clock [] fun r _ ended =>
        held ended r.2 := by
  induction ids with
  | nil => exact fun clock store kept => .pure kept
  | cons id rest ih =>
    intro clock store kept
    apply Act.HearsFrom.looking
    have later := keepsUp.lasts (clock.passes_wait Clock.glance) kept
    refine .bind (keepsUp.stores id backend template clock store later) ?_
    intro result heard mid passes stored
    cases result with
    | error e => exact .pure (keepsUp.lasts passes later)
    | ok next => exact ih mid next (stored next rfl)

omit [Service σ] in
theorem Rounds.upheld {backend : BackendId} {template : Template} {requested created : Nat}
    {clock ended : Clock} {store after : ρ} {result : Except Failure Nat} {heard : List Exchange}
    (keepsUp : KeepsUp held intake)
    (rounds : Rounds intake backend template requested created clock store result after heard ended)
    (kept : held clock store) : held ended after := by
  induction rounds with
  | enough => exact kept
  | failed => exact kept
  | empty => exact kept
  | @refused _ _ _ _ _ _ ids missing some stored =>
    obtain ⟨_, keptAfter⟩ :=
      stored.of_hearsFrom (storeAll_keeps keepsUp backend template ids _ _ kept)
    exact keptAfter
  | @next _ _ _ _ _ _ _ _ _ ids missing some stored others ih =>
    obtain ⟨_, keptNext⟩ :=
      stored.of_hearsFrom (storeAll_keeps keepsUp backend template ids _ _ kept)
    exact ih keptNext

omit [Service σ] in
theorem Provisions.upheld {desk : Desk} {role : BackendId → Option String} {requested : Nat}
    {clock ended : Clock} {store after : ρ} {result : Except Failure Unit} {heard : List Exchange}
    (keepsUp : KeepsUp held intake)
    (provisions : Provisions intake desk role requested clock store result after heard ended)
    (kept : held clock store) : held ended after := by
  cases provisions with
  | full => exact kept
  | unbound => exact kept
  | rounds missing bound rounds => exact rounds.upheld keepsUp kept

/-- Whatever holds of a store at each moment, and is kept up when one new session is stored, holds
of it when filling has ended, however it ended. -/
theorem provision_keeps (byClock : ∀ session store, (intake session store).ByClock)
    (keepsUp : KeepsUp held intake) (desk : Desk) (requested : Nat) (clock : Clock) (store : ρ)
    (kept : held clock store) :
    (desk.provision intake requested store).HearsFrom clock [] fun r _ ended =>
      held ended r.2 := by
  rintro env rfl
  obtain ⟨heard, grown, passes, provisions⟩ := provision_provisions byClock desk requested store env
  exact ⟨heard, grown, passes, provisions.upheld keepsUp kept⟩

end

end SessionPooling.Desk
