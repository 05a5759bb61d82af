import Gatehouse.Text.Ascii

/-!
# Header fields

A message carries a list of header fields. Names are kept in lower case and
compared that way; a name may repeat, and then the first field of that name is
the one that counts. A value may hold bytes that no reader should trust as text,
so there are two questions to ask: whether a field is there at all (`has`), and
what it says, if it is legible (`text?`).
-/

namespace Gatehouse.Http

open Gatehouse.Text

/-- One header field; `name` is in lower case. -/
structure Header where
  name : String
  value : String
  deriving DecidableEq, Repr

/-- The header fields of a message, in order. -/
abbrev Headers := List Header

namespace Headers

/-- The value of the first field called `name`. -/
def value? (headers : Headers) (name : String) : Option String :=
  (headers.find? (fun h => h.name == lowerAscii name)).map Header.value

/-- Whether there is a field called `name`. -/
def has (headers : Headers) (name : String) : Bool := (headers.value? name).isSome

/-- The value of the first field called `name`, if it is visible ASCII throughout. -/
def text? (headers : Headers) (name : String) : Option String :=
  (headers.value? name).filter (fun value => value.toList.all isVisibleAscii)

/-- Adds a field unless there is one of its name. -/
def ensure (headers : Headers) (name value : String) : Headers :=
  if headers.has name then headers else headers ++ [⟨lowerAscii name, value⟩]

theorem value?_append (headers more : Headers) (name : String) :
    Headers.value? (headers ++ more) name = (headers.value? name).or (Headers.value? more name) := by
  simp only [value?, List.find?_append]
  cases headers.find? (fun h => h.name == lowerAscii name) <;> rfl

/-- An ensured field is there, with the value it had or else the given one. -/
theorem value?_ensure (headers : Headers) (name value : String) :
    (headers.ensure name value).value? name = some ((headers.value? name).getD value) := by
  cases h : headers.value? name with
  | some old => simp [ensure, has, h]
  | none =>
    rw [ensure, has, h, Option.isSome_none, if_neg Bool.false_ne_true, value?_append, h]
    simp [value?]

end Headers

/-- The longest name of a header field. -/
def Header.longestName : Nat := UInt16.size - 1

/-- Whether a text may be the name of a header field. -/
def isFieldName (name : String) : Bool := isToken name && name.length ≤ Header.longestName

/-- Whether a text may be the value of a header field. -/
def isFieldValue (value : String) : Bool := value.toList.all isFieldChar

end Gatehouse.Http
