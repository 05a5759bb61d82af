import Gatehouse.Text.Split
import Gatehouse.Text.Utf8

/-!
# Form-encoded queries

A query is a list of pairs, `name=value` joined by `&`. Inside a pair `+` is a
space and `%` with two hex digits is a byte; a `%` without them stands for
itself. The bytes are then read as UTF-8 leniently, so every query has a reading,
and `pairs` gives it. The writer spells the characters that have no other meaning
as they are, a space as `+`, and every other byte by its two hex digits.
-/

namespace Gatehouse.Text.Form

/-- The value of a hex digit of either case. -/
def hexValue? (b : UInt8) : Option UInt8 :=
  if 0x30 ≤ b ∧ b ≤ 0x39 then some (b - 0x30)
  else if 0x41 ≤ b ∧ b ≤ 0x46 then some (b - 0x41 + 10)
  else if 0x61 ≤ b ∧ b ≤ 0x66 then some (b - 0x61 + 10)
  else none

/-- The upper-case hex digit of value `n`, for `n` below 16. -/
def hexDigit (n : UInt8) : UInt8 := if n < 10 then 0x30 + n else 0x41 + (n - 10)

/-- The bytes that an encoded name or value stands for. -/
def unescape : List UInt8 → List UInt8
  | [] => []
  | b :: high :: low :: rest =>
    if b = 0x25 then
      match hexValue? high, hexValue? low with
      | some h, some l => (16 * h + l) :: unescape rest
      | _, _ => b :: unescape (high :: low :: rest)
    else (if b = 0x2B then 0x20 else b) :: unescape (high :: low :: rest)
  | b :: rest => (if b = 0x2B then 0x20 else b) :: unescape rest

/-- The text that an encoded name or value stands for. -/
def decode (bytes : List UInt8) : String := String.ofList (Utf8.lenient (unescape bytes))

/-- One pair; a missing `=` means an empty value. -/
def pair (bytes : List UInt8) : String × String :=
  match cutFirst 0x3D bytes with
  | some (name, value) => (decode name, decode value)
  | none => (decode bytes, "")

/-- The pairs of an encoded query, in order; empty pieces between `&` signs are skipped. -/
def pairs (bytes : List UInt8) : List (String × String) :=
  ((bytes.splitOn 0x26).filter (fun piece => !piece.isEmpty)).map pair

/-- The value of the first pair called `name`. -/
def lookup? (name : String) (bytes : List UInt8) : Option String := (pairs bytes).lookup name

/-! ## Writing -/

/-- A byte that stands for itself: a letter, a digit, or one of `*`, `-`, `.`, `_`. -/
def isPlain (b : UInt8) : Bool :=
  (0x30 ≤ b && b ≤ 0x39) || (0x41 ≤ b && b ≤ 0x5A) || (0x61 ≤ b && b ≤ 0x7A)
    || b == 0x2A || b == 0x2D || b == 0x2E || b == 0x5F

/-- The encoded form of one byte. -/
def escapeByte (b : UInt8) : List UInt8 :=
  if isPlain b then [b]
  else if b = 0x20 then [0x2B]
  else [0x25, hexDigit (b / 16), hexDigit (b % 16)]

/-- The encoded form of a name or value. -/
def encode (s : String) : List UInt8 := (Utf8.ofString s).flatMap escapeByte

/-- The encoded form of a pair. -/
def writePair (p : String × String) : List UInt8 := encode p.1 ++ 0x3D :: encode p.2

/-- The encoded form of a list of pairs. -/
def write (ps : List (String × String)) : List UInt8 := [0x26].intercalate (ps.map writePair)

end Gatehouse.Text.Form
