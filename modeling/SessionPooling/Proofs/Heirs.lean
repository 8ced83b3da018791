import Mathlib.Data.List.Forall2
import SessionPooling.Proofs.ScopeTree

/-! What stands for the sessions of a stack after a while, place by place, and what stays of the
sessions that are at hand. -/
namespace SessionPooling
variable {α β : Type}

theorem forall₂_trans {R : α → α → Prop} (trans : ∀ a b c, R a b → R b c → R a c)
    {l m : List α} (first : List.Forall₂ R l m) :
    ∀ {n : List α}, List.Forall₂ R m n → List.Forall₂ R l n := by
  induction first with
  | nil => exact id
  | cons head tail ih =>
    intro n second
    cases second with
    | cons next more => exact .cons (trans _ _ _ head next) (ih more)

/-- What stands for a session later on: the session itself, or one that was created when it was
found gone. -/
inductive Session.Heir (heard : List Exchange) (session : Session) : Session → Prop where
  | itself : Heir heard session session
  | used {heir next} (former : Heir heard session heir) (stays : heir.Stays next) :
      Heir heard session next
  | replaced {desk : Desk} {heir next asked more} (former : Heir heard session heir)
      (gone : heir.Gone asked) (created : desk.Created (.ok next) more)
      (within : asked ++ more <:+: heard) : Heir heard session next

namespace Session
variable {session next last : Session} {heard more : List Exchange}

theorem Stays.refl (session : Session) : session.Stays session := fun _ known => known

theorem Stays.trans (first : session.Stays next) (second : next.Stays last) :
    session.Stays last :=
  fun id known => second id (first id known)

theorem Heir.mono (heir : session.Heir heard next) (within : heard <:+: more) :
    session.Heir more next := by
  induction heir with
  | itself => exact .itself
  | used former stays ih => exact .used ih stays
  | replaced former gone created said ih => exact .replaced ih gone created (said.trans within)

theorem Heir.trans (first : session.Heir heard next) (second : next.Heir heard last) :
    session.Heir heard last := by
  induction second with
  | itself => exact first
  | used former stays ih => exact .used ih stays
  | replaced former gone created said ih => exact .replaced ih gone created said

/-- The sessions of a stack, and those that stand for them, place by place. -/
abbrev Heirs (heard : List Exchange) : List Session → List Session → Prop :=
  List.Forall₂ (Heir heard)

theorem Heirs.refl (heard : List Exchange) (sessions : List Session) :
    Heirs heard sessions sessions :=
  List.forall₂_same.2 fun _ _ => .itself

theorem Heirs.mono {sessions others : List Session} (heirs : Heirs heard sessions others)
    (within : heard <:+: more) : Heirs more sessions others :=
  heirs.imp fun _ _ heir => heir.mono within

theorem Heirs.trans {sessions others final : List Session} (first : Heirs heard sessions others)
    (second : Heirs heard others final) : Heirs heard sessions final :=
  forall₂_trans (R := Heir heard) (fun _ _ _ => .trans) first second

end Session

namespace Hand
variable {before mid after : Hand}

theorem Kept.refl (hand : Hand) : hand.Kept hand :=
  ⟨List.forall₂_same.2 fun session _ => .refl session, rfl⟩

theorem Kept.trans (first : before.Kept mid) (second : mid.Kept after) : before.Kept after :=
  ⟨forall₂_trans (R := Session.Stays) (fun _ _ _ => .trans) first.sessions second.sessions,
    second.transactions.trans first.transactions⟩

end Hand

end SessionPooling
