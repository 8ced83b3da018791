import SessionPooling.Failure

/-! How work ends when it may also be abandoned midway. A panic is no failure: no one is
told a cause, and whatever was held is given back on the way out. -/
namespace SessionPooling

inductive Outcome (α : Type) where
  | ok (value : α)
  | error (failure : Failure)
  | panic

namespace Outcome

def ofExcept : Except Failure α → Outcome α
  | .ok a => .ok a
  | .error e => .error e

def map (f : α → β) : Outcome α → Outcome β
  | ok a => ok (f a)
  | error e => error e
  | panic => panic

end Outcome
end SessionPooling
