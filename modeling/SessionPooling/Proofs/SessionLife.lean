import SessionPooling.Backend.Fleet
import SessionPooling.Proofs.SessionFields

/-! The life of a session. Whatever is done with a session, in whatever order, and whatever the
service answers, its fields go together: it has a name just if it has a time of creation, for good;
a transaction that it has is its own; and it was created no later than it was last used. An
operation that fails leaves all fields as they were. -/
namespace SessionPooling

/-! A transaction stays with its session. -/

namespace Transaction

theorem session_buffer (t : Transaction) (mutation : Mutation) :
    (t.buffer mutation).2.session = t.session := by
  unfold buffer
  cases t.stage <;> rfl

variable {σ : Type} [Service σ]

theorem session_requestBegin (t : Transaction) (env : Env σ) :
    (t.requestBegin env).1.2.session = t.session := by
  rcases asked : Act.ask t.backend (.begin t.session) env with ⟨reply, after⟩
  simp only [requestBegin, bind, StateT.bind, asked]
  cases reply with
  | error e => rfl
  | ok id => rfl

theorem session_requestCommit (t : Transaction) (id : TransactionId) (env : Env σ) :
    (t.requestCommit id env).1.2.session = t.session := by
  rcases asked : Act.ask t.backend (.commit t.session id t.mutations) env with ⟨reply, after⟩
  simp only [requestCommit, bind, StateT.bind, asked]
  cases reply with
  | error e => rfl
  | ok time => rfl

theorem session_begin (t : Transaction) (env : Env σ) :
    (t.begin env).1.2.session = t.session := by
  unfold begin
  cases t.stage with
  | pending => exact t.session_requestBegin env
  | _ => rfl

theorem session_commit (t : Transaction) (env : Env σ) :
    (t.commit env).1.2.session = t.session := by
  unfold commit
  cases t.stage with
  | pending =>
    have begun := t.session_requestBegin env
    rcases same : t.requestBegin env with ⟨⟨reply, mid⟩, after⟩
    rw [same] at begun
    simp only [bind, StateT.bind, same]
    cases reply with
    | error e => exact begun
    | ok id => exact (mid.session_requestCommit id after).trans begun
  | begun id => exact t.session_requestCommit id env
  | _ => rfl

theorem session_rollback (t : Transaction) (env : Env σ) :
    (t.rollback env).1.2.session = t.session := by
  unfold rollback
  cases t.stage <;> rfl

theorem session_undergo (t : Transaction) (deed : TransactionDeed) (env : Env σ) :
    (t.undergo deed env).1.2.session = t.session := by
  cases deed with
  | begin => exact t.session_begin env
  | buffer mutation => exact t.session_buffer mutation
  | commit => exact t.session_commit env
  | rollback => exact t.session_rollback env

end Transaction

namespace Session

/-- All that can come of what is done with a session at a time. -/
inductive Underwent (session : Session) (now : Instant) :
    SessionDeed → Except Failure Unit → Session → Prop where
  | failed (deed e) : Underwent session now deed (.error e) session
  /-- The service answered, and nothing was to be changed. -/
  | answered {deed} (asks : deed ∈ [.probe, .delete]) : Underwent session now deed (.ok ()) session
  | created (never : session.creation = none) (id) :
      Underwent session now .create (.ok ())
        { session with creation := some ⟨id, now⟩, lastUse := now }
  | pinged : Underwent session now .ping (.ok ()) { session with lastUse := now }
  | touched : Underwent session now .touch (.ok ()) { session with lastUse := now }
  | marked (inUse) : Underwent session now (.setInUse inUse) (.ok ()) (session.setInUse inUse)
  | attached {creation} (known : session.creation = some creation) :
      Underwent session now .newTransaction (.ok ())
        { session with transaction := some (.fresh creation.id session.backend) }
  | detached :
      Underwent session now .takeTransaction (.ok ()) { session with transaction := none }
  | idle (nothing : session.transaction = none) (deed) :
      Underwent session now (.onTransaction deed) (.ok ()) session
  | worked {t after} (had : session.transaction = some t) (own : after.session = t.session)
      (deed reply) :
      Underwent session now (.onTransaction deed) reply { session with transaction := some after }

section
variable {σ : Type} [Service σ]

theorem create_underwent (session : Session) (env : Env σ) :
    let r := (session.undergo .create env).1
    session.Underwent env.clock.now .create r.1 r.2 := by
  obtain ⟨backend, template, creation, lastUse, inUse, transaction⟩ := session
  cases creation with
  | some creation => exact .failed _ _
  | none =>
    rcases asked : Act.ask backend (.create template) env with ⟨reply, after⟩
    have same : after.clock = env.clock := congrArg (fun ended => ended.2.clock) asked.symm
    simp only [undergo, create, bind, StateT.bind, asked]
    cases reply with
    | error e => exact .failed _ e
    | ok id =>
      rw [← same]
      exact .created rfl id

theorem probe_underwent (session : Session) (env : Env σ) :
    let r := (session.undergo .probe env).1
    session.Underwent env.clock.now .probe r.1 r.2 := by
  rcases asked : session.exists? env with ⟨reply, after⟩
  simp only [undergo, bind, StateT.bind, asked]
  cases reply with
  | error e => exact .failed _ e
  | ok found => exact .answered (by decide)

theorem ping_underwent (session : Session) (env : Env σ) :
    let r := (session.undergo .ping env).1
    session.Underwent env.clock.now .ping r.1 r.2 := by
  obtain ⟨backend, template, creation, lastUse, inUse, transaction⟩ := session
  cases creation with
  | none => exact .failed _ _
  | some creation =>
    rcases asked : Act.ask backend (.ping creation.id) env with ⟨reply, after⟩
    have same : after.clock = env.clock := congrArg (fun ended => ended.2.clock) asked.symm
    simp only [undergo, ping, bind, StateT.bind, asked]
    cases reply with
    | error e => exact .failed _ e
    | ok _ =>
      rw [← same]
      exact .pinged

theorem delete_underwent (session : Session) (env : Env σ) :
    let r := (session.undergo .delete env).1
    session.Underwent env.clock.now .delete r.1 r.2 := by
  rcases asked : session.delete env with ⟨reply, after⟩
  simp only [undergo, bind, StateT.bind, asked]
  cases reply with
  | error e => exact .failed _ e
  | ok _ => exact .answered (by decide)

theorem newTransaction_underwent (session : Session) (now : Instant) :
    let r := session.replaced session.newTransaction
    session.Underwent now .newTransaction r.1 r.2 := by
  obtain ⟨backend, template, creation, lastUse, inUse, transaction⟩ := session
  cases creation with
  | none => exact .failed _ _
  | some creation => exact .attached rfl

theorem onTransaction_underwent (session : Session) (deed : TransactionDeed) (env : Env σ) :
    let r := (session.undergo (.onTransaction deed) env).1
    session.Underwent env.clock.now (.onTransaction deed) r.1 r.2 := by
  obtain ⟨backend, template, creation, lastUse, inUse, transaction⟩ := session
  cases transaction with
  | none => exact .idle rfl deed
  | some t => exact .worked rfl (t.session_undergo deed env) deed _

theorem undergo_underwent (session : Session) (deed : SessionDeed) (env : Env σ) :
    let r := (session.undergo deed env).1
    session.Underwent env.clock.now deed r.1 r.2 := by
  cases deed with
  | create => exact session.create_underwent env
  | probe => exact session.probe_underwent env
  | ping => exact session.ping_underwent env
  | touch => exact .touched
  | delete => exact session.delete_underwent env
  | setInUse inUse => exact .marked inUse
  | newTransaction => exact session.newTransaction_underwent _
  | takeTransaction => exact .detached
  | onTransaction deed => exact session.onTransaction_underwent deed env

end

theorem isSome_id?_iff (session : Session) :
    session.id?.isSome ↔ session.createdAt?.isSome := by
  simp [id?, createdAt?]

/-- A transaction that the session has is its own. -/
def OwnsTransaction (session : Session) : Prop :=
  ∀ t, session.transaction = some t → session.id? = some t.session

/-- The session was created no later than it was last used, and that not in the future. -/
structure Dated (session : Session) (now : Instant) : Prop where
  created : ∀ time, session.createdAt? = some time → time ≤ session.lastUse
  used : session.lastUse ≤ now

theorem Dated.later {session : Session} {now later : Instant} (dated : session.Dated now)
    (passed : now ≤ later) : session.Dated later :=
  ⟨dated.created, Int.le_trans dated.used passed⟩

theorem Dated.touched {session : Session} {now : Instant} (dated : session.Dated now) :
    { session with lastUse := now }.Dated now :=
  ⟨fun time born => Int.le_trans (dated.created time born) dated.used, Int.le_refl _⟩

namespace Underwent
variable {session next : Session} {now : Instant} {deed : SessionDeed}
  {reply : Except Failure Unit}

theorem creation_eq {creation : Creation} (underwent : session.Underwent now deed reply next)
    (known : session.creation = some creation) : next.creation = some creation := by
  cases underwent with
  | created never id => cases never.symm.trans known
  | _ => exact known

theorem owns (underwent : session.Underwent now deed reply next) (owns : session.OwnsTransaction) :
    next.OwnsTransaction := by
  cases underwent with
  | created never id =>
    -- It has no transaction yet, since it has no name that one could bear.
    intro t has
    have named := owns t has
    rw [id?, never] at named
    cases named
  | attached known =>
    rintro _ ⟨⟩
    exact congrArg (Option.map (·.id)) known
  | detached => exact fun _ => nofun
  | worked had own deed reply =>
    rintro _ ⟨⟩
    rw [own]
    exact owns _ had
  | _ => exact owns

theorem dated (underwent : session.Underwent now deed reply next) (dated : session.Dated now) :
    next.Dated now := by
  cases underwent with
  | created never id =>
    refine ⟨?_, Int.le_refl _⟩
    rintro _ ⟨⟩
    exact Int.le_refl _
  | pinged => exact dated.touched
  | touched => exact dated.touched
  | _ => exact ⟨dated.created, dated.used⟩

theorem uses (underwent : session.Underwent now deed reply next)
    (used : next.lastUse ≠ session.lastUse) :
    deed = .touch ∨ deed ∈ [.create, .ping] ∧ reply = .ok () := by
  cases underwent with
  | created never id => exact .inr ⟨by decide, rfl⟩
  | pinged => exact .inr ⟨by decide, rfl⟩
  | touched => exact .inl rfl
  | _ => exact (used rfl).elim

/-- What is not done with the transaction has no effect if it fails. -/
theorem eq_of_error {e : Failure} (underwent : session.Underwent now deed (.error e) next)
    (outer : deed ∈ [.create, .probe, .ping, .delete, .newTransaction]) : next = session := by
  cases underwent with
  | failed => rfl
  | worked had own inner => simp at outer

end Underwent
end Session

namespace SessionOrigin
variable (origin : SessionOrigin) (backend : BackendId) (template : Template) (now : Instant)

theorem owns_session : (origin.session backend template now).OwnsTransaction := by
  cases origin with
  | unborn => exact fun _ => nofun
  | existing id => exact fun _ => nofun

theorem dated_session : (origin.session backend template now).Dated now := by
  cases origin with
  | unborn => exact ⟨fun _ => nofun, Int.le_refl _⟩
  | existing id =>
    refine ⟨?_, Int.le_refl _⟩
    rintro _ ⟨⟩
    exact Int.le_refl _

end SessionOrigin

/-- What happens to a session: something is done with it, or its surroundings change. -/
inductive Happening (σ : Type) where
  | deed (deed : SessionDeed)
  | outside (change : σ → σ)
  | moveClock (change : Clock → Clock)

/-- A session, as a value or field by field, and its surroundings. -/
structure Life (σ ρ : Type) where
  env : Env σ
  session : ρ

namespace Life
variable {σ ρ ρ' : Type}

/-- Begun at the time that the clock shows. -/
def start (make : Instant → ρ) (env : Env σ) : Life σ ρ :=
  let (now, env) := Act.now env
  ⟨env, make now⟩

def now (l : Life σ ρ) : Instant := l.env.clock.now

def map (f : ρ → ρ') (l : Life σ ρ) : Life σ ρ' := ⟨l.env, f l.session⟩

section
variable (undergo : ρ → SessionDeed → Act σ (Except Failure Unit × ρ))

def reply (l : Life σ ρ) (deed : SessionDeed) : Except Failure Unit :=
  (undergo l.session deed l.env).1.1

def step (l : Life σ ρ) : Happening σ → Life σ ρ
  | .deed deed =>
    let ((_, session), env) := undergo l.session deed l.env
    ⟨env, session⟩
  | .outside change => { l with env := { l.env with service := change l.env.service } }
  | .moveClock change => { l with env := { l.env with clock := change l.env.clock } }

def play (l : Life σ ρ) (happenings : List (Happening σ)) : Life σ ρ :=
  happenings.foldl (step undergo) l

/-- Whether the clock does not go back in the course of a life. -/
def GoesForward (l : Life σ ρ) : List (Happening σ) → Prop
  | [] => True
  | happening :: rest =>
    l.now ≤ (l.step undergo happening).now ∧ (l.step undergo happening).GoesForward rest

instance decidableGoesForward :
    ∀ (l : Life σ ρ) (happenings : List (Happening σ)),
      Decidable (l.GoesForward undergo happenings)
  | _, [] => inferInstanceAs (Decidable True)
  | l, happening :: rest =>
    have := decidableGoesForward (l.step undergo happening) rest
    inferInstanceAs (Decidable (_ ∧ GoesForward undergo (l.step undergo happening) rest))

end

/-! Two lives of which one is the image of the other. -/

section
variable {undergo : ρ → SessionDeed → Act σ (Except Failure Unit × ρ)}
  {undergo' : ρ' → SessionDeed → Act σ (Except Failure Unit × ρ')} {f : ρ → ρ'}
  (same : ∀ session deed, undergo' (f session) deed = Prod.map id f <$> undergo session deed)
include same

theorem reply_map (l : Life σ ρ) (deed : SessionDeed) :
    (l.map f).reply undergo' deed = l.reply undergo deed := by
  simp only [reply, map, same l.session deed]
  rfl

theorem step_map (l : Life σ ρ) (happening : Happening σ) :
    (l.map f).step undergo' happening = (l.step undergo happening).map f := by
  cases happening with
  | deed deed =>
    simp only [step, map, same l.session deed]
    rfl
  | outside change => rfl
  | moveClock change => rfl

theorem play_map (happenings : List (Happening σ)) :
    ∀ l : Life σ ρ, (l.map f).play undergo' happenings = (l.play undergo happenings).map f := by
  induction happenings with
  | nil => exact fun _ => rfl
  | cons happening rest ih =>
    intro l
    have stepped := ih (l.step undergo happening)
    rw [← step_map same] at stepped
    exact stepped

theorem goesForward_map (happenings : List (Happening σ)) :
    ∀ l : Life σ ρ,
      (l.map f).GoesForward undergo' happenings ↔ l.GoesForward undergo happenings := by
  induction happenings with
  | nil => exact fun _ => Iff.rfl
  | cons happening rest ih =>
    intro l
    simp only [GoesForward, step_map same, ih]
    rfl

end

variable [Service σ]

theorem underwent (l : Life σ Session) (deed : SessionDeed) :
    l.session.Underwent l.now deed (l.reply Session.undergo deed)
      (l.step Session.undergo (.deed deed)).session :=
  l.session.undergo_underwent deed l.env

/-- What each deed keeps of a session, a whole life keeps. -/
theorem play_keeps {P : Session → Prop}
    (kept : ∀ {session next now deed reply}, session.Underwent now deed reply next →
      P session → P next) (happenings : List (Happening σ)) :
    ∀ {l : Life σ Session}, P l.session → P (l.play Session.undergo happenings).session := by
  induction happenings with
  | nil => exact fun holds => holds
  | cons happening rest ih =>
    intro l holds
    refine ih ?_
    cases happening with
    | deed deed => exact kept (l.underwent deed) holds
    | outside change => exact holds
    | moveClock change => exact holds

/-- Once a session has a name and a time of creation, it keeps them. -/
theorem play_keeps_creation (l : Life σ Session) (happenings : List (Happening σ)) :
    let ended := l.play Session.undergo happenings
    (∀ id, l.session.id? = some id → ended.session.id? = some id) ∧
      ∀ time, l.session.createdAt? = some time → ended.session.createdAt? = some time := by
  have kept (creation : Creation) (known : l.session.creation = some creation) :
      (l.play Session.undergo happenings).session.creation = some creation :=
    play_keeps (fun underwent => underwent.creation_eq) happenings known
  constructor
  · intro id named
    obtain ⟨creation, known, rfl⟩ := Option.map_eq_some_iff.1 named
    exact congrArg (Option.map (·.id)) (kept creation known)
  · intro time born
    obtain ⟨creation, known, rfl⟩ := Option.map_eq_some_iff.1 born
    exact congrArg (Option.map (·.time)) (kept creation known)

theorem step_dated {l : Life σ Session} (dated : l.session.Dated l.now)
    (happening : Happening σ) : (l.step Session.undergo happening).session.Dated l.now := by
  cases happening with
  | deed deed => exact (l.underwent deed).dated dated
  | outside change => exact dated
  | moveClock change => exact dated

theorem play_dated (happenings : List (Happening σ)) :
    ∀ {l : Life σ Session}, l.session.Dated l.now → l.GoesForward Session.undergo happenings →
      let ended := l.play Session.undergo happenings
      ended.session.Dated ended.now := by
  induction happenings with
  | nil => exact fun dated _ => dated
  | cons happening rest ih =>
    exact fun dated forward => ih ((step_dated dated happening).later forward.1) forward.2

theorem uses_of_step {l : Life σ Session} {happening : Happening σ}
    (used : (l.step Session.undergo happening).session.lastUse ≠ l.session.lastUse) :
    ∃ deed, happening = .deed deed ∧ (deed = .touch ∨ deed ∈ [.create, .ping] ∧
      l.reply Session.undergo deed = .ok ()) := by
  cases happening with
  | deed deed => exact ⟨deed, rfl, (l.underwent deed).uses used⟩
  | outside change => exact (used rfl).elim
  | moveClock change => exact (used rfl).elim

theorem step_of_error {l : Life σ Session} {deed : SessionDeed} {e : Failure}
    (outer : deed ∈ [.create, .probe, .ping, .delete, .newTransaction])
    (failed : l.reply Session.undergo deed = .error e) :
    (l.step Session.undergo (.deed deed)).session = l.session := by
  have underwent := l.underwent deed
  rw [failed] at underwent
  exact underwent.eq_of_error outer

/-- The fields of a session go together. Field by field or as one value, a session is the same after
whatever is done with it and whatever the services answer. It has a name just if it has a time of
creation, neither of which changes any more; a transaction that it has is its own; on a clock that
does not go back, it was created no later than it was last used, and that not in the future. The
time of its last use changes only when it is touched, or created or pinged with success; and what
fails leaves all fields as they were, unless it was done with the transaction. -/
theorem play_keeps_together (origin : SessionOrigin) (backend : BackendId) (template : Template)
    (env : Env σ) (happenings : List (Happening σ)) :
    let begun := start (origin.fields backend template) env
    let l := begun.play SessionFields.undergo happenings
    let whole := (start (origin.session backend template) env).play Session.undergo happenings
    (l = whole.map Session.fields ∧
      ∀ deed, l.reply SessionFields.undergo deed = whole.reply Session.undergo deed) ∧
    (l.session.id.isSome ↔ l.session.createdAt.isSome) ∧
    (∀ earlier later, happenings = earlier ++ later →
      let before := begun.play SessionFields.undergo earlier
      (∀ id, before.session.id = some id → l.session.id = some id) ∧
      ∀ time, before.session.createdAt = some time → l.session.createdAt = some time) ∧
    (∀ t, l.session.transaction = some t → l.session.id = some t.session) ∧
    (begun.GoesForward SessionFields.undergo happenings →
      (∀ time, l.session.createdAt = some time → time ≤ l.session.lastUse) ∧
        l.session.lastUse ≤ l.now) ∧
    (∀ happening,
      (l.step SessionFields.undergo happening).session.lastUse ≠ l.session.lastUse →
      ∃ deed, happening = .deed deed ∧ (deed = .touch ∨ deed ∈ [.create, .ping] ∧
        l.reply SessionFields.undergo deed = .ok ())) ∧
    ∀ deed ∈ [.create, .probe, .ping, .delete, .newTransaction], ∀ e,
      l.reply SessionFields.undergo deed = .error e →
      (l.step SessionFields.undergo (.deed deed)).session = l.session := by
  intro begun l whole
  have same := SessionWork.on_perform (σ := σ)
  have born : begun = (start (origin.session backend template) env).map Session.fields :=
    congrArg (Life.mk _) (origin.fields_session backend template _).symm
  have lived (lived : List (Happening σ)) : begun.play SessionFields.undergo lived =
      ((start (origin.session backend template) env).play Session.undergo lived).map
        Session.fields := by
    rw [born]
    exact play_map same lived _
  have now : l = whole.map Session.fields := lived happenings
  have stepped (happening : Happening σ) : l.step SessionFields.undergo happening =
      (whole.step Session.undergo happening).map Session.fields := by
    rw [now]
    exact step_map same whole happening
  have replied (deed : SessionDeed) :
      l.reply SessionFields.undergo deed = whole.reply Session.undergo deed := by
    rw [now]
    exact reply_map same whole deed
  refine ⟨⟨now, replied⟩, ?_, ?_, ?_, ?_, ?_, ?_⟩
  · rw [now]
    exact whole.session.isSome_id?_iff
  · rintro earlier later rfl before
    let prior := (start (origin.session backend template) env).play Session.undergo earlier
    have split : whole = prior.play Session.undergo later := List.foldl_append
    have first : before = prior.map Session.fields := lived earlier
    rw [now, split, first]
    exact prior.play_keeps_creation later
  · rw [now]
    intro t has
    obtain ⟨own, had, rfl⟩ := Option.map_eq_some_iff.1 has
    have owns : whole.session.OwnsTransaction :=
      play_keeps Session.Underwent.owns happenings (origin.owns_session backend template _)
    exact owns own had
  · intro forward
    rw [born, goesForward_map same] at forward
    have first : (start (origin.session backend template) env).session.Dated
        (start (origin.session backend template) env).now :=
      (origin.dated_session backend template env.clock.now).later (env.clock.now_le_wait _)
    have dated := play_dated happenings first forward
    rw [now]
    exact ⟨dated.created, dated.used⟩
  · intro happening used
    rw [stepped, now] at used
    simp only [replied]
    exact uses_of_step used
  · intro deed outer e failed
    rw [replied] at failed
    rw [stepped, now]
    exact congrArg Session.fields (step_of_error outer failed)

/-- A service that refuses to create a session, then refuses a ping, and at last has lost it, while
transactions replace one another and time passes. -/
theorem play_keeps_together_of_refusals :
    let env : Env Fleet :=
      ⟨.startingAt ⟨0, by decide⟩, .ofBackends [.reliable (.fresh none none false) 0], []⟩
    let wait (n : Nat) : Happening Fleet := .moveClock (·.advance (.ofSeconds n))
    let refuse (kind : RequestKind) : Happening Fleet :=
      .outside (Fleet.onBackend 0 (·.arrange kind (some Fleet.unreachable)))
    let happenings : List (Happening Fleet) := [.deed .ping, refuse .create, .deed .create, wait 5,
      .deed .create, .deed .newTransaction, .deed (.onTransaction .begin), wait 5, refuse .ping,
      .deed .ping, .deed .create, .deed .newTransaction, .deed .ping, wait 5,
      .outside (Fleet.onMemory 0 (·.expireAll)), .deed (.onTransaction .commit)]
    let begun := start (SessionOrigin.unborn.fields 0 .empty) env
    let l := begun.play SessionFields.undergo happenings
    (begun.GoesForward SessionFields.undergo happenings ∧
      l.session.createdAt = some ⟨5000000000, by decide⟩ ∧
      l.session.transaction = some (.fresh ⟨"session-1"⟩ 0) ∧
      (l.reply SessionFields.undergo .ping).isOk = false) ∧
    l.session.id = some ⟨"session-1"⟩ ∧
    ⟨5000000000, by decide⟩ ≤ l.session.lastUse ∧ l.session.lastUse ≤ l.now ∧
    (l.step SessionFields.undergo (.deed .ping)).session = l.session := by
  intro env wait refuse happenings begun l
  have forward : begun.GoesForward SessionFields.undergo happenings := by decide +kernel
  have born : l.session.createdAt = some ⟨5000000000, by decide⟩ := by decide +kernel
  have has : l.session.transaction = some (.fresh ⟨"session-1"⟩ 0) := by decide +kernel
  have failed : (l.reply SessionFields.undergo .ping).isOk = false := by decide +kernel
  have reached : (start (SessionOrigin.unborn.fields 0 .empty) env).play SessionFields.undergo
    happenings = l := rfl
  obtain ⟨-, -, -, own, dated, -, whole⟩ :=
    play_keeps_together .unborn 0 .empty env happenings
  rw [reached] at own dated whole
  obtain ⟨created, used⟩ := dated forward
  have unchanged : (l.step SessionFields.undergo (.deed .ping)).session = l.session := by
    cases reply : l.reply SessionFields.undergo .ping with
    | ok _ =>
      rw [reply] at failed
      cases failed
    | error e => exact whole .ping (by simp) e reply
  exact ⟨⟨forward, born, has, failed⟩, own _ has, created _ born, used, unchanged⟩

end Life
end SessionPooling
