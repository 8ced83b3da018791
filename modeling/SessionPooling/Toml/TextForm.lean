import SessionPooling.Text.Record
import SessionPooling.Toml.Key

/-! How strings and keys are written. A string has four forms. It is written in the first of
them that shows it as it is, so that quotes and backslashes are rarely escaped; where none
does, a basic form is taken, in which every string can be written. -/
namespace SessionPooling.Toml

def upperHexDigit (n : Nat) : Char :=
  if n < 10 then Char.ofNat ('0'.toNat + n) else Char.ofNat ('A'.toNat + (n - 10))

def fourHexDigits (n : Nat) : List Char :=
  [upperHexDigit (n / 4096 % 16), upperHexDigit (n / 256 % 16), upperHexDigit (n / 16 % 16),
    upperHexDigit (n % 16)]

def printChar (c : Char) : List Char :=
  if c = '\x08' then ['\\', 'b']
  else if c = '\t' then ['\\', 't']
  else if c = '\n' then ['\\', 'n']
  else if c = '\x0c' then ['\\', 'f']
  else if c = '\r' then ['\\', 'r']
  else if c = '"' then ['\\', '"']
  else if c = '\\' then ['\\', '\\']
  else if c.toNat < 32 ∨ c.toNat = 127 then '\\' :: 'u' :: fourHexDigits c.toNat
  else [c]

/-- The inside of a basic string over lines, where `quotes` of its quotes stand unescaped
right before. Three in a row would close the string, so each third one is escaped. -/
def printLines : Nat → List Char → List Char
  | _, [] => []
  | quotes, c :: rest =>
    if c = '"' then
      if quotes = 2 then '\\' :: '"' :: printLines 0 rest else '"' :: printLines (quotes + 1) rest
    else if c = '\n' then '\n' :: printLines 0 rest
    else printChar c ++ printLines 0 rest

inductive TextForm where
  | basic
  | literal
  | multilineBasic
  | multilineLiteral
deriving DecidableEq

namespace TextForm

def isPlainInLines (c : Char) : Bool := isPlain c || c == '\n'

/-- Whether a form shows a string as it is. A tab counts as shown also where it is escaped. -/
def suits (chars : List Char) : TextForm → Bool
  | basic => chars.all fun c => isPlain c && c != '\\' && c != '"'
  | literal => chars.all fun c => isPlain c && c != '\''
  | multilineBasic =>
    (chars.all fun c => isPlainInLines c && c != '\\') &&
      !Text.occursIn (List.replicate 3 '"') chars
  | multilineLiteral =>
    chars.all isPlainInLines && !Text.occursIn (List.replicate 3 '\'') chars

/-- The longest run of equal quotes whose length is counted when a form is chosen for a value,
where the count fits in a byte. The format itself has no such limit. -/
def longestQuoteRun : Nat := 255

def hasCountableQuotes (chars : List Char) : Bool :=
  ['"', '\''].all fun quote => !Text.occursIn (List.replicate (longestQuoteRun + 1) quote) chars

def ofValue (chars : List Char) : TextForm :=
  ([basic, literal, multilineBasic, multilineLiteral].find? (suits chars)).getD
    (if chars.contains '\n' then multilineBasic else basic)

/-- The form in which a quoted key is written, which stays on one line. -/
def ofKey (chars : List Char) : TextForm :=
  ([basic, literal].find? (suits chars)).getD basic

def quotes : TextForm → List Char
  | basic => ['"']
  | literal => ['\'']
  | multilineBasic => ['"', '"', '"']
  | multilineLiteral => ['\'', '\'', '\'']

/-- What stands between the quotes. A string over lines starts on a line of its own. -/
def inside (chars : List Char) : TextForm → List Char
  | basic => chars.flatMap printChar
  | literal => chars
  | multilineBasic => lineStart ++ printLines 0 chars
  | multilineLiteral => lineStart ++ chars
where
  lineStart : List Char := if chars.contains '\n' then ['\n'] else []

def print (form : TextForm) (chars : List Char) : List Char :=
  form.quotes ++ form.inside chars ++ form.quotes

end TextForm

def printText (s : String) : List Char := (TextForm.ofValue s.toList).print s.toList

/-- A key is bare where it can be. -/
def printKey (key : String) : List Char :=
  if !key.isEmpty && key.toList.all isBareKey then key.toList
  else (TextForm.ofKey key.toList).print key.toList

end SessionPooling.Toml
