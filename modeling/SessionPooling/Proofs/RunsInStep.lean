import SessionPooling.Proofs.Lending
import SessionPooling.Proofs.PoolsInStep

/-! What a run answers, and two runs in step: the same operations, beside services that tell the
same, answer the same and leave the same pool, as long as whatever else happens to the services
happens alike on both sides. -/
namespace SessionPooling.Lending
variable {σ : Type} [Service σ]

/-- What an operation answers. -/
inductive Reply where
  | done (result : Except Failure Unit)
  | got (result : Except Failure Session)
  | pinged (result : Except Failure Bool)
  | counted (result : Except Failure Nat)
  /-- The end of a scope tells no one how it went; nor does what is no operation of the pool. -/
  | silent

def reply (l : Lending σ) : Op σ → Reply
  | .bind backend => .done (l.pool.bind backend l.env).1.1
  | .get timeout => .got (l.pool.get timeout l.env).1.1
  | .put place =>
    match l.held[place]? with
    | none => .silent
    | some session => .done (l.pool.put session l.env).1.1
  | .clear => .done (l.pool.clear l.env).1.1
  | .ping => .pinged (l.pool.ping l.env).1.1
  | .pingAllDue => .counted (l.pool.pingAllDue l.env).1.1
  | .beginPending => .counted (l.pool.beginPending l.env).1.1
  | _ => .silent

/-- What the operations of a run answer, one after another. -/
def replies (l : Lending σ) : List (Op σ) → List Reply
  | [] => []
  | op :: ops => l.reply op :: (l.step op).replies ops

/-- What happens outside the pool, to the services or to the clock, happens alike to related
ones. -/
def Op.Fair (R : Clock → Recorder σ → Recorder σ → Prop) : Op σ → Prop
  | .use _ handling => ∀ clock s t, R clock s t → ∀ session,
    (handling.act s.inner session).1 = (handling.act t.inner session).1 ∧
      R clock { s with inner := (handling.act s.inner session).2 }
        { t with inner := (handling.act t.inner session).2 }
  | .outside change => ∀ clock s t, R clock s t →
    R clock { s with inner := change s.inner } { t with inner := change t.inner }
  | .moveClock change => ∀ clock s t, R clock s t → R (change clock) s t
  | _ => True

/-- Related pools go in step and stay related, whatever is done with them but giving back. -/
structure GoAlong (R : Clock → Recorder σ → Recorder σ → Prop) (T : Pool → Pool → Prop) : Prop where
  bind : ∀ {pool other}, T pool other → ∀ backend,
    (pool.bind backend).InStep R (other.bind backend) (Both T)
  get : ∀ {pool other}, T pool other → ∀ timeout,
    (pool.get timeout).InStep R (other.get timeout) (Both T)
  clear : ∀ {pool other}, T pool other → pool.clear.InStep R other.clear (Both T)
  ping : ∀ {pool other}, T pool other → pool.ping.InStep R other.ping (Both T)
  pingAllDue : ∀ {pool other}, T pool other → pool.pingAllDue.InStep R other.pingAllDue (Both T)
  beginPending : ∀ {pool other}, T pool other →
    pool.beginPending.InStep R other.beginPending (Both T)

/-- Related pools and the same held sessions, in surroundings that are alike. -/
structure Alike (R : Clock → Recorder σ → Recorder σ → Prop) (T : Pool → Pool → Prop)
    (l other : Lending σ) : Prop where
  env : l.env.Alike R other.env
  pool : T l.pool other.pool
  held : l.held = other.held

variable {R : Clock → Recorder σ → Recorder σ → Prop} {T T' : Pool → Pool → Prop} {α : Type}

theorem GoAlong.eq (tells : TellsAlike R) : GoAlong R Eq where
  bind := by
    rintro pool _ rfl backend
    exact (pool.bind_inStep tells backend).mono fun _ _ same => .of_eq same
  get := by
    rintro pool _ rfl timeout
    exact (pool.get_inStep tells timeout).mono fun _ _ same => .of_eq same
  clear := by
    rintro pool _ rfl
    exact (pool.clear_inStep tells).mono fun _ _ same => .of_eq same
  ping := by
    rintro pool _ rfl
    exact (pool.ping_inStep tells).mono fun _ _ same => .of_eq same
  pingAllDue := by
    rintro pool _ rfl
    exact (pool.pingAllDue_inStep tells).mono fun _ _ same => .of_eq same
  beginPending := by
    rintro pool _ rfl
    exact (pool.beginPending_inStep tells).mono fun _ _ same => .of_eq same

omit [Service σ] in
theorem alike_operate {l other : Lending σ} {work work' : Act (Recorder σ) (α × Pool)}
    (held : α → List Session) (ended : Both T (work l.env).1 (work' other.env).1)
    (outside : (work l.env).2.Alike R (work' other.env).2) :
    (l.operate work held).Alike R T (other.operate work' held) := by
  refine ⟨outside, ended.2, ?_⟩
  exact congrArg held ended.1

theorem alike_giveBack {l other : Lending σ} {session : Session}
    (ended : Both T (l.pool.put session l.env).1 (other.pool.put session other.env).1)
    (outside : (l.pool.put session l.env).2.Alike R (other.pool.put session other.env).2)
    (held : List Session) :
    (l.operate (giveBack session l.pool) fun _ => held).Alike R T
      (other.operate (giveBack session other.pool) fun _ => held) := by
  obtain ⟨log, same⟩ := giveBack_eq session l.pool l.env
  obtain ⟨log', same'⟩ := giveBack_eq session other.pool other.env
  refine alike_operate _ ?_ ?_
  · rw [same, same']
    exact ⟨rfl, ended.2⟩
  · rw [same, same']
    exact ⟨outside.clock, outside.service⟩

/-- One operation goes alike if giving back does, which may relate the pools more loosely. -/
theorem Alike.step {l other : Lending σ} (goes : GoAlong R T)
    (looser : ∀ {pool other}, T pool other → T' pool other) (alike : l.Alike R T other)
    (op : Op σ) (fair : op.Fair R)
    (returns : ∀ place session, op.GivesBack place → l.held[place]? = some session →
      Both T' (l.pool.put session l.env).1 (other.pool.put session other.env).1 ∧
        (l.pool.put session l.env).2.Alike R (other.pool.put session other.env).2) :
    l.reply op = other.reply op ∧ (l.step op).Alike R T' (other.step op) := by
  obtain ⟨env, pool, held⟩ := l
  obtain ⟨env', pool', held'⟩ := other
  obtain ⟨surroundings, related, same⟩ := alike
  have surroundings : env.Alike R env' := surroundings
  have related : T pool pool' := related
  obtain rfl : held = held' := same
  -- Whatever the result is used for, it is the same on both sides.
  have went {α : Type} {work work' : Act (Recorder σ) (α × Pool)}
      (inStep : work.InStep R work' (Both T)) :
      Both T' (work env).1 (work' env').1 ∧ (work env).2.Alike R (work' env').2 := by
    obtain ⟨ended, outside⟩ := inStep env env' surroundings
    exact ⟨⟨ended.1, looser ended.2⟩, outside⟩
  cases op with
  | bind backend =>
    obtain ⟨ended, outside⟩ := went (goes.bind related backend)
    exact ⟨congrArg Reply.done ended.1, alike_operate (fun _ => held) ended outside⟩
  | get timeout =>
    obtain ⟨ended, outside⟩ := went (goes.get related timeout)
    refine ⟨congrArg Reply.got ended.1, ?_⟩
    simp only [Lending.step]
    exact alike_operate (fun got => held ++ Pool.leaving got) ended outside
  | put place =>
    simp only [reply, Lending.step]
    cases found : held[place]? with
    | none => exact ⟨rfl, surroundings, looser related, rfl⟩
    | some session =>
      obtain ⟨ended, outside⟩ := returns place session (.inl rfl) found
      exact ⟨congrArg Reply.done ended.1,
        alike_operate (fun _ => held.eraseIdx place) ended outside⟩
  | release place =>
    simp only [reply, Lending.step]
    cases found : held[place]? with
    | none => exact ⟨trivial, surroundings, looser related, rfl⟩
    | some session =>
      obtain ⟨ended, outside⟩ := returns place session (.inr rfl) found
      exact ⟨trivial, alike_giveBack ended outside (held.eraseIdx place)⟩
  | clear =>
    obtain ⟨ended, outside⟩ := went (goes.clear related)
    exact ⟨congrArg Reply.done ended.1, alike_operate (fun _ => held) ended outside⟩
  | ping =>
    obtain ⟨ended, outside⟩ := went (goes.ping related)
    exact ⟨congrArg Reply.pinged ended.1, alike_operate (fun _ => held) ended outside⟩
  | pingAllDue =>
    obtain ⟨ended, outside⟩ := went (goes.pingAllDue related)
    exact ⟨congrArg Reply.counted ended.1, alike_operate (fun _ => held) ended outside⟩
  | beginPending =>
    obtain ⟨ended, outside⟩ := went (goes.beginPending related)
    exact ⟨congrArg Reply.counted ended.1, alike_operate (fun _ => held) ended outside⟩
  | use place handling =>
    simp only [reply, Lending.step, useBy]
    cases found : held[place]? with
    | none => exact ⟨trivial, surroundings, looser related, rfl⟩
    | some session =>
      obtain ⟨same, stays⟩ := fair _ _ _ surroundings.service session
      exact ⟨trivial, ⟨surroundings.clock, stays⟩, looser related, congrArg (held.set place) same⟩
  | outside change =>
    exact ⟨rfl, ⟨surroundings.clock, fair _ _ _ surroundings.service⟩, looser related, rfl⟩
  | moveClock change =>
    exact ⟨rfl, ⟨congrArg change surroundings.clock, fair _ _ _ surroundings.service⟩,
      looser related, rfl⟩

/-- A run of one and the same pool goes alike among services that tell the same. -/
theorem Alike.play (tells : TellsAlike R) (ops : List (Op σ)) :
    ∀ {l other : Lending σ}, l.Alike R Eq other → (∀ op ∈ ops, op.Fair R) →
      l.replies ops = other.replies ops ∧ (l.play ops).Alike R Eq (other.play ops) := by
  induction ops with
  | nil => exact fun alike _ => ⟨rfl, alike⟩
  | cons op ops ih =>
    intro l other alike fair
    obtain ⟨answer, next⟩ := alike.step (.eq tells) id op (fair op List.mem_cons_self)
      fun place session _ _ => by
        obtain ⟨ended, outside⟩ := l.pool.put_inStep tells session l.env other.env alike.env
        rw [← alike.pool]
        exact ⟨.of_eq ended, outside⟩
    obtain ⟨answers, final⟩ := ih next fun op member => fair op (List.mem_cons_of_mem _ member)
    exact ⟨congrArg₂ List.cons answer answers, final⟩

end SessionPooling.Lending
