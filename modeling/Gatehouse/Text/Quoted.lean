import Gatehouse.Text.Legible

/-!
# Quoted text for log lines

A text is quoted between double quotes. The quote and the backslash take a
backslash, the usual four controls their letters, and any other character that
does not show as itself its number in braces. `Quoted.ofString` is the whole
format; the lists and records of a log line are built from it.
-/

namespace Gatehouse.Text.Quoted

/-- The number of a character in braces, lower-case hex without leading zeros. -/
def byNumber (c : Char) : String :=
  "\\u\x7b" ++ String.ofList (Nat.toDigits 16 c.toNat) ++ "\x7d"

/-- One character inside the quotes. -/
def ofChar (c : Char) : String :=
  match c with
  | '"' => "\\\""
  | '\\' => "\\\\"
  | '\n' => "\\n"
  | '\r' => "\\r"
  | '\t' => "\\t"
  | '\x00' => "\\0"
  | c => if isLegible c then String.singleton c else byNumber c

/-- A quoted text. -/
def ofString (s : String) : String := "\"" ++ String.join (s.toList.map ofChar) ++ "\""

/-- A bracketed list of quoted texts. -/
def ofStrings (texts : List String) : String :=
  "[" ++ String.intercalate ", " (texts.map ofString) ++ "]"

end Gatehouse.Text.Quoted
