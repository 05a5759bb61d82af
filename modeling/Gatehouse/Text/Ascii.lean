/-!
# The ASCII rules of a message head

Names in a message head are ASCII: letter case is folded on the letters `A` to
`Z` alone, so that a Kelvin sign never passes for a `k`, and a method or a header
name is a *token*, a non-empty run of a fixed set of characters.
-/

namespace Gatehouse.Text

/-- The text with the letters `A` to `Z` in lower case. -/
def lowerAscii (s : String) : String := String.ofList (s.toList.map Char.toLower)

/-- Equal up to the case of ASCII letters. -/
def sameLetters (s t : String) : Bool := lowerAscii s == lowerAscii t

/-- A character that a token may hold. -/
def isTokenChar (c : Char) : Bool := c.isAlphanum || "!#$%&'*+-.^_`|~".toList.contains c

/-- A method or a header name. -/
def isToken (s : String) : Bool := !s.toList.isEmpty && s.toList.all isTokenChar

/-- The characters that a field of a message head shows: ASCII without controls, and the tab. -/
def isVisibleAscii (c : Char) : Bool := (0x20 ≤ c.toNat && c.toNat ≤ 0x7E) || c == '\t'

/-- The characters that a field of a message head may hold, legible or not. -/
def isFieldChar (c : Char) : Bool := (0x20 ≤ c.toNat && c.toNat ≠ 0x7F) || c == '\t'

end Gatehouse.Text
