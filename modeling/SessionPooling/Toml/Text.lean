import SessionPooling.Toml.Scan

/-! Strings of TOML documents, in their four forms. Basic strings have escapes, literal
strings have none, and either may span lines when its quotes are tripled. -/
namespace SessionPooling.Toml

def hexDigit? (c : Char) : Option Nat :=
  if c.isDigit then some (c.toNat - '0'.toNat)
  else if 'a' ≤ c ∧ c ≤ 'f' then some (c.toNat - 'a'.toNat + 10)
  else if 'A' ≤ c ∧ c ≤ 'F' then some (c.toNat - 'A'.toNat + 10)
  else none

/-- The character with a given code point. Halves of surrogate pairs are no characters. -/
def scalar? (code : Nat) : Option Char :=
  if h : code.isValidChar then some (Char.ofNatAux code h) else none

def shortEscape? (c : Char) : Option Char :=
  match c with
  | 'b' => some '\x08'
  | 't' => some '\t'
  | 'n' => some '\n'
  | 'f' => some '\x0c'
  | 'r' => some '\r'
  | '"' => some '"'
  | '\\' => some '\\'
  | _ => none

inductive BasicPhase where
  | plain
  | escaped
  /-- Inside a code point, with `left` digits to come. -/
  | code (left value : Nat)
  /-- After quotes that may turn out to close a string over lines. -/
  | quotes (count : Nat)
  /-- After a carriage return, which only a line feed may follow. -/
  | carriage
  /-- After a backslash and blanks, which a line end must follow. -/
  | gap
  | gapCarriage
  /-- After an escaped line end, passing blanks and line ends. -/
  | trimming
  | trimmingCarriage
deriving DecidableEq

namespace BasicPhase

def codeStep (left value : Nat) (c : Char) : Option (Move BasicPhase) :=
  match hexDigit? c with
  | none => none
  | some digit =>
    let value := value * 16 + digit
    if left ≤ 1 then (scalar? value).map fun ch => .go [ch] plain
    else some (.go [] (code (left - 1) value))

/-- The character after a backslash, in the forms that both kinds of string have. -/
def escapeStep (c : Char) : Option (Move BasicPhase) :=
  if c = 'u' then some (.go [] (code 4 0))
  else if c = 'U' then some (.go [] (code 8 0))
  else (shortEscape? c).map fun ch => .go [ch] plain

end BasicPhase

def basicText : Scan BasicPhase where
  step
    | .plain, c =>
      if c = '"' then some (.stop [])
      else if c = '\\' then some (.go [] .escaped)
      else if isPlain c then some (.go [c] .plain)
      else none
    | .escaped, c => BasicPhase.escapeStep c
    | .code left value, c => BasicPhase.codeStep left value c
    | _, _ => none
  atEnd _ := none

/-- The most quotes that can end a string over lines: two of its own and three that close. -/
def closingRun : Nat := 5

/-- A character of a basic string over lines, outside escapes and after `held` quotes that
belong to the string. -/
def multilinePlain (held : List Char) (c : Char) : Option (Move BasicPhase) :=
  if c = '\\' then some (.go held .escaped)
  else if c = '\n' then some (.go (held ++ ['\n']) .plain)
  else if c = '\r' then some (.go held .carriage)
  else if isPlain c then some (.go (held ++ [c]) .plain)
  else none

/-- A basic string over lines, after its opening quotes. Line ends are read as line feeds. -/
def multilineBasicText : Scan BasicPhase where
  step
    | .plain, c => if c = '"' then some (.go [] (.quotes 1)) else multilinePlain [] c
    | .quotes count, c =>
      if c = '"' then
        if count + 1 = closingRun then some (.stop (List.replicate (closingRun - 3) '"'))
        else some (.go [] (.quotes (count + 1)))
      else if 3 ≤ count then some (.stopBefore (List.replicate (count - 3) '"'))
      else multilinePlain (List.replicate count '"') c
    | .carriage, c => if c = '\n' then some (.go ['\n'] .plain) else none
    | .escaped, c =>
      if isBlank c then some (.go [] .gap)
      else if c = '\n' then some (.go [] .trimming)
      else if c = '\r' then some (.go [] .gapCarriage)
      else BasicPhase.escapeStep c
    | .code left value, c => BasicPhase.codeStep left value c
    | .gap, c =>
      if isBlank c then some (.go [] .gap)
      else if c = '\n' then some (.go [] .trimming)
      else if c = '\r' then some (.go [] .gapCarriage)
      else none
    | .gapCarriage, c => if c = '\n' then some (.go [] .trimming) else none
    | .trimming, c =>
      if isBlank c || c = '\n' then some (.go [] .trimming)
      else if c = '\r' then some (.go [] .trimmingCarriage)
      else if c = '"' then some (.go [] (.quotes 1))
      else multilinePlain [] c
    | .trimmingCarriage, c => if c = '\n' then some (.go [] .trimming) else none
  atEnd
    | .quotes count => if 3 ≤ count then some (List.replicate (count - 3) '"') else none
    | _ => none

inductive LiteralPhase where
  | plain
  | quotes (count : Nat)
  | carriage
deriving DecidableEq

def literalText : Scan LiteralPhase where
  step
    | .plain, c =>
      if c = '\'' then some (.stop []) else if isPlain c then some (.go [c] .plain) else none
    | _, _ => none
  atEnd _ := none

/-- A character of a literal string over lines, after `held` quotes of the string. -/
def multilineLiteralPlain (held : List Char) (c : Char) : Option (Move LiteralPhase) :=
  if c = '\n' then some (.go (held ++ ['\n']) .plain)
  else if c = '\r' then some (.go held .carriage)
  else if isPlain c then some (.go (held ++ [c]) .plain)
  else none

def multilineLiteralText : Scan LiteralPhase where
  step
    | .plain, c => if c = '\'' then some (.go [] (.quotes 1)) else multilineLiteralPlain [] c
    | .quotes count, c =>
      if c = '\'' then
        if count + 1 = closingRun then some (.stop (List.replicate (closingRun - 3) '\''))
        else some (.go [] (.quotes (count + 1)))
      else if 3 ≤ count then some (.stopBefore (List.replicate (count - 3) '\''))
      else multilineLiteralPlain (List.replicate count '\'') c
    | .carriage, c => if c = '\n' then some (.go ['\n'] .plain) else none
  atEnd
    | .quotes count => if 3 ≤ count then some (List.replicate (count - 3) '\'') else none
    | _ => none

/-- A line end directly after opening quotes does not belong to the string. -/
def dropFirstNewline (input : List Char) : List Char :=
  (newline? input).getD input

def asText (read : Option (List Char × List Char)) : Option (String × List Char) :=
  read.map fun (chars, rest) => (String.ofList chars, rest)

def text? : List Char → Option (String × List Char)
  | '"' :: '"' :: '"' :: rest =>
    asText (multilineBasicText.run .plain (dropFirstNewline rest))
  | '"' :: rest => asText (basicText.run .plain rest)
  | '\'' :: '\'' :: '\'' :: rest =>
    asText (multilineLiteralText.run .plain (dropFirstNewline rest))
  | '\'' :: rest => asText (literalText.run .plain rest)
  | _ => none

end SessionPooling.Toml
