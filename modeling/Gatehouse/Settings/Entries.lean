import Gatehouse.Credentials.Entry
import Gatehouse.Text.Blank

/-!
# Lists of entries

A list setting holds entries between commas, an entry fields between colons, and
the field of roles names between bars. Blanks around an entry, a name or a role do
not count, and blank entries and blank roles are skipped. A list is accepted as a
whole or not at all: one entry that is not well formed refuses it, and so does a
key that occurs twice.

    tokens:  token:name:role|role      (the last colon may be missing, too)
    users:   user:password:role|role   (the password may hold colons)

A token entry is cut at its first two colons, so that its roles may hold more of
them. A user entry is cut at its first and its last colon, and the password is
what stands between them, blanks included.
-/

namespace Gatehouse

open Text

/-- The trimmed pieces between separators, without the blank ones. -/
def nonblankPieces (sep : Char) (cs : List Char) : List (List Char) :=
  ((cs.splitOn sep).map trim).filter (fun piece => !piece.isEmpty)

/-- The roles of an entry. -/
def readRoles (cs : List Char) : List String := (nonblankPieces '|' cs).map String.ofList

/-- Reads a token entry. -/
def TokenEntry.read? (cs : List Char) : Option TokenEntry := do
  let (token, rest) ← cutFirst ':' cs
  let (name, roles) := (cutFirst ':' rest).getD (rest, [])
  if (trim token).isEmpty || (trim name).isEmpty then none
  else some ⟨String.ofList (trim token), String.ofList (trim name), readRoles roles⟩

/-- Reads a user entry. -/
def UserEntry.read? (cs : List Char) : Option UserEntry := do
  let (username, rest) ← cutFirst ':' cs
  let (password, roles) ← cutLast ':' rest
  if (trim username).isEmpty || password.isEmpty then none
  else some ⟨String.ofList (trim username), String.ofList password, readRoles roles⟩

/-- Reads a list of entries under distinct keys. -/
def readEntries? {α : Type} (read? : List Char → Option α) (key : α → String) (text : String) :
    Option (List α) := do
  let entries ← (nonblankPieces ',' text.toList).mapM read?
  if (entries.map key).Nodup then some entries else none

/-- Reads the list of tokens. -/
def readTokens? (text : String) : Option (List TokenEntry) :=
  readEntries? TokenEntry.read? TokenEntry.token text

/-- Reads the list of users. -/
def readUsers? (text : String) : Option (List UserEntry) :=
  readEntries? UserEntry.read? UserEntry.username text

/-! ## Writing -/

/-- The written form of a token entry. -/
def TokenEntry.write (entry : TokenEntry) : String :=
  entry.token ++ ":" ++ entry.name ++ ":" ++ String.intercalate "|" entry.roles

/-- The written form of a user entry. -/
def UserEntry.write (entry : UserEntry) : String :=
  entry.username ++ ":" ++ entry.password ++ ":" ++ String.intercalate "|" entry.roles

/-- The written form of the list of tokens. -/
def writeTokens (entries : List TokenEntry) : String :=
  String.intercalate "," (entries.map TokenEntry.write)

/-- The written form of the list of users. -/
def writeUsers (entries : List UserEntry) : String :=
  String.intercalate "," (entries.map UserEntry.write)

end Gatehouse
