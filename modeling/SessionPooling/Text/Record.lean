import SessionPooling.Text.Printable

/-! The spelling of values in diagnostic texts: quoted strings, named fields,
positional arguments, optional values and lists. -/
namespace SessionPooling.Text

/-- The digits of `n` in base sixteen, lower case, without leading zeros. -/
def hexadecimal (n : Nat) : String :=
  String.ofList (Nat.toDigits 16 n)

/-- One character inside a quoted string. A character that has neither a short escape nor a
printed shape is written by its code point, and any other stands for itself. -/
def quotedChar (c : Char) : String :=
  if c == '"' then "\\\""
  else if c == '\\' then "\\\\"
  else if c == '\n' then "\\n"
  else if c == '\t' then "\\t"
  else if c == '\r' then "\\r"
  else if c.toNat == 0 then "\\0"
  else if isPrintable c then c.toString
  else "\\u\x7b" ++ hexadecimal c.toNat ++ "\x7d"

def quoted (s : String) : String :=
  "\"" ++ String.join (s.toList.map quotedChar) ++ "\""

def record (name : String) (fields : List (String × String)) : String :=
  name ++ " \x7b " ++ ", ".intercalate (fields.map fun f => f.1 ++ ": " ++ f.2) ++ " \x7d"

def applied (name argument : String) : String :=
  name ++ "(" ++ argument ++ ")"

def flag (b : Bool) : String := if b then "true" else "false"

def optional (inner : α → String) : Option α → String
  | none => "None"
  | some a => applied "Some" (inner a)

def list (items : List String) : String :=
  "[" ++ ", ".intercalate items ++ "]"

def occursIn (pattern : List Char) : List Char → Bool
  | [] => pattern.isEmpty
  | c :: rest => pattern.isPrefixOf (c :: rest) || occursIn pattern rest

/-- A diagnostic text that is plain ASCII and spells no character by its code point. -/
def plainAscii? (s : String) : Option String :=
  if s.toList.all (·.toNat < 128) && !occursIn ['\\', 'u', '\x7b'] s.toList then some s else none

end SessionPooling.Text
