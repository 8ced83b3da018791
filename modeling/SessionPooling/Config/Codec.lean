import SessionPooling.Data.Datum

/-! Documents and their texts. How a document is written as a text, and read from it, is for a
codec to say. -/
namespace SessionPooling

/-- Named tables, among whose fields there may be tables again. -/
abbrev Document := List (String × List (String × Datum))

/-- How writing a document ends. -/
inductive Written where
  | text (text : String)
  /-- The document holds something that texts cannot show. -/
  | refused
  | panic

structure Codec where
  write : Document → Written
  read? : String → Option Datum

end SessionPooling
