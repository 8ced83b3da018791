import SessionPooling.Failure

/-! Paths: the way that a text describes, and the place that it leads to. Whether something
stands there, and whether one gets there at all, is for the folder to say. -/
namespace SessionPooling

inductive PathPart where
  | here
  | above
  | name (text : String)
deriving DecidableEq

/-- Slashes next to each other have nothing between them. -/
def PathPart.ofChars? : List Char → Option PathPart
  | [] => none
  | ['.'] => some .here
  | ['.', '.'] => some .above
  | chars => some (.name (String.ofList chars))

/-- The texts before, between and after slashes. -/
def splitAtSlashes : List Char → List (List Char)
  | [] => [[]]
  | c :: rest =>
    if c = '/' then [] :: splitAtSlashes rest
    else
      match splitAtSlashes rest with
      | [] => [[c]]
      | piece :: pieces => (c :: piece) :: pieces

structure Route where
  parts : List PathPart
  /-- A slash at the end asks for a folder. -/
  asksFolder : Bool
deriving DecidableEq

/-- The most bytes that a whole path may have. -/
def pathLimit : Nat := 4095

/-- The most bytes that one name in a path may have. -/
def nameLimit : Nat := 255

/-- The way that a path describes which is seen from the folder of the given name. -/
def Route.ofText (folder path : String) : Except FileProblem Route :=
  if path.toList.any fun c => c.toNat == 0 then .error .nulInName
  else if pathLimit < folder.utf8ByteSize + 1 + path.utf8ByteSize then .error .nameTooLong
  else
    .ok
      ⟨(splitAtSlashes path.toList).filterMap PathPart.ofChars?,
        path.toList.getLast? == some '/'⟩

/-- A place: the names that lead to it from a folder, the last one first. Two dots lead to the
folder around it, and are no name inside it. -/
abbrev Place := List String

namespace Place

def next : Place → PathPart → Place
  | place, .here => place
  | place, .name text => text :: place
  | [], .above => [".."]
  | name :: outer, .above => if name = ".." then ".." :: name :: outer else outer

/-- Whether a place is the folder itself or around it. -/
def isAround (place : Place) : Bool := place.all (· == "..")

/-- Whether the name of a place itself is too long for anything to stand there. -/
def isTooLong (place : Place) : Bool := nameLimit < (place.headD "").utf8ByteSize

end Place
end SessionPooling
