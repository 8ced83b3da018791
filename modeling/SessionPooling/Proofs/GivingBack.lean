import SessionPooling.Backend.Fleet
import SessionPooling.Proofs.CleanFailure
import SessionPooling.Proofs.Heirs
import SessionPooling.Proofs.RunFrame

/-! Scopes on a pool of fixed size give everything back, however deep they are in each other and
however they end. What one scope does to the stack is undone at its end, for what the scopes in it
did is undone by then; so the stack is as it was, but for sessions that were found gone. -/
namespace SessionPooling
variable {σ κ α β : Type}

namespace Visit
variable [Service σ]

/-- The scope got no session: the one on top was found gone, and none could be created in its
place. -/
def Lost (pool : Nat) (visit : Visit (Recorder σ) κ) : Prop :=
  visit.opening? = none ∧ ∃ (stack : FixedPool) (top : Session) (rest : List Session)
    (e : Failure) (asked : List Exchange),
    visit.before.pools[pool]? = some (.fixed stack) ∧ stack.stored = top :: rest ∧
      stack.desk.Vetted top (.lost e) asked ∧
      visit.after.env.service.heard = visit.before.env.service.heard ++ asked

end Visit

/-- What scopes do to a stack. A scope gets a session or is refused one. Those that are opened in it
end before it does, and when they have ended its session is given back, once, and not refused.
Nothing else is done to the stack. -/
inductive Bracketed [Service σ] (pool : Nat) :
    FixedPool → List (Visit (Recorder σ) κ) → FixedPool → Prop where
  | none (stack) : Bracketed pool stack [] stack
  | refused {stack next final e visit rest}
      (before : visit.before.pools[pool]? = some (.fixed stack)) (never : visit.opening? = none)
      (got : Sys.onPool pool (·.get visit.timeout) visit.before = (.error e, visit.after))
      (after : visit.after.pools[pool]? = some (.fixed next))
      (more : Bracketed pool next rest final) : Bracketed pool stack (visit :: rest) final
  | opened {stack taken stored next final opening visit inner rest}
      (before : visit.before.pools[pool]? = some (.fixed stack))
      (known : visit.opening? = some opening)
      (got : Sys.onPool pool (·.get visit.timeout) visit.before =
        (.ok opening.session, opening.opened))
      (begun : opening.opened.pools[pool]? = some (.fixed taken))
      (meanwhile : Bracketed pool taken inner { taken with stored })
      (stays : opening.session.Stays opening.returned)
      (ended : opening.ended.pools[pool]? = some (.fixed { taken with stored }))
      (put : Sys.onPool pool (·.put opening.returned) opening.ended = (.ok (), visit.after))
      (after : visit.after.pools[pool]? = some (.fixed next))
      (more : Bracketed pool next rest final) :
      Bracketed pool stack (inner ++ visit :: rest) final

theorem Bracketed.trans [Service σ] {pool : Nat} {stack mid final : FixedPool}
    {visits others : List (Visit (Recorder σ) κ)} (first : Bracketed pool stack visits mid)
    (second : Bracketed pool mid others final) : Bracketed pool stack (visits ++ others) final := by
  induction first with
  | none => exact second
  | refused before never got after more ih => exact .refused before never got after (ih second)
  | opened before known got begun meanwhile stays ended put after more meanwhileIh ih =>
    rw [List.append_assoc]
    exact .opened before known got begun meanwhile stays ended put after (ih second)

/-! Taking from a stack and putting back. -/

namespace FixedPool

end FixedPool

namespace Sys
variable {κ' : Type} (i : Nat) (work : Pool → Act σ (Except Failure β × Pool))

end Sys

namespace Scopes
variable [Service σ] {pool : Nat} {timeout : Option Duration}
  {inside : Session → Visiting σ κ (Outcome α × Session)}
  {sys : System (Recorder σ) (Visits (Recorder σ) κ)}

/-! How a scope goes, seen without the notes that are taken. -/

end Scopes

/-- What has become of a stack when all scopes that were opened on it have ended. -/
structure Balance [Service σ] (pool : Nat) (stack : FixedPool)
    (before after : System (Recorder σ) (Visits (Recorder σ) κ)) (stored : List Session)
    (heard : List Exchange) (visits : List (Visit (Recorder σ) κ)) : Prop where
  left : after.pools[pool]? = some (.fixed { stack with stored })
  fewer : stored.length ≤ stack.stored.length
  grown : after.env.service.heard = before.env.service.heard ++ heard
  noted : after.own.visits = before.own.visits ++ visits
  hand : before.own.hand.Kept after.own.hand
  bracketed : Bracketed pool stack visits { stack with stored }
  heirs : (∀ visit ∈ visits, ¬ visit.Lost pool) → Session.Heirs heard stack.stored stored

/-- Whatever is done meanwhile comes to a balance on the pool, if it is a stack that has room for
all that is in it. -/
def Balanced [Service σ] (pool : Nat)
    (before after : System (Recorder σ) (Visits (Recorder σ) κ)) : Prop :=
  ∀ stack : FixedPool, before.pools[pool]? = some (.fixed stack) →
    stack.stored.length ≤ stack.size →
      ∃ stored heard visits, Balance pool stack before after stored heard visits

section
variable [Service σ] {pool : Nat} {stack : FixedPool} {stored final : List Session}
  {heard more : List Exchange} {visits others : List (Visit (Recorder σ) κ)}
  {before mid after : System (Recorder σ) (Visits (Recorder σ) κ)}

theorem Balance.trans (first : Balance pool stack before mid stored heard visits)
    (second : Balance pool { stack with stored } mid after final more others) :
    Balance pool stack before after final (heard ++ more) (visits ++ others) where
  left := second.left
  fewer := Nat.le_trans second.fewer first.fewer
  grown := by rw [second.grown, first.grown, List.append_assoc]
  noted := by rw [second.noted, first.noted, List.append_assoc]
  hand := first.hand.trans second.hand
  bracketed := first.bracketed.trans second.bracketed
  heirs := by
    intro found
    have early := first.heirs fun visit mem => found visit (List.mem_append_left _ mem)
    have late := second.heirs fun visit mem => found visit (List.mem_append_right _ mem)
    exact (early.mono (List.prefix_append heard more).isInfix).trans
      (late.mono (List.suffix_append heard more).isInfix)

end

namespace Scopes
variable [Service σ] {pool : Nat}

/-- What is done in a scope comes to a balance, and its session stays the same session. -/
def Sound (pool : Nat) (inside : Session → Visiting σ κ (Outcome α × Session)) : Prop :=
  ∀ session sys (stack : FixedPool), sys.pools[pool]? = some (.fixed stack) →
    stack.stored.length ≤ stack.size →
      session.Stays (inside session sys).1.2 ∧
        ∃ stored heard visits, Balance pool stack sys (inside session sys).2 stored heard visits

variable {inside : Session → Visiting σ κ (Outcome α × Session)}

end Scopes
end SessionPooling
