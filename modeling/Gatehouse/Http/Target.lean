import Gatehouse.Text.Ascii
import Gatehouse.Text.Form

/-!
# Request targets

A request names its target in one of three forms: a path with an optional query,
an absolute address `scheme://authority/path?query`, or a bare authority. Nothing
is decoded or normalised, so two spellings of one resource are two targets. A
fragment is dropped. `Target.read?` refuses what is no target: a character out of
place, an authority that does not add up, an empty text, one that is far too long.
-/

namespace Gatehouse.Http

open Gatehouse.Text

/-- What a request asks for. -/
structure Target where
  /-- The scheme of an absolute address. -/
  scheme : Option String
  /-- The path as written; empty for a bare authority. -/
  path : String
  /-- What follows the question mark, if there is one. -/
  query : Option String
  deriving DecidableEq, Repr

namespace Target

/-- Whether the target is to be reached over a secure channel. -/
def isSecure (target : Target) : Bool := target.scheme.any (fun scheme => sameLetters scheme "https")

/-- The value of the first query parameter called `name`, decoded. -/
def parameter? (target : Target) (name : String) : Option String :=
  target.query.bind (fun query => Form.lookup? name (Utf8.ofString query))

/-- The target with another path. -/
def withPath (target : Target) (path : String) : Target := { target with path }

/-- Whether the path starts at the root. Only that of `*` or of a bare authority does not. -/
def isRooted (target : Target) : Bool := ['/'].isPrefixOf target.path.toList

/-- What is left of the target once the leading `mount` is taken off its path. -/
def below? (mount : String) (target : Target) : Option Target :=
  if mount.toList.isPrefixOf target.path.toList then
    some (target.withPath (String.ofList (target.path.toList.drop mount.length)))
  else none

/-! ## Path and query -/

/-- A character that a path may hold. -/
def isPathChar (c : Char) : Bool :=
  0x21 ≤ c.toNat && c.toNat ≠ 0x7F && !"<>`".toList.contains c

/-- A character that a query may hold. -/
def isQueryChar (c : Char) : Bool :=
  0x21 ≤ c.toNat && c.toNat ≠ 0x7F && !"\"<>".toList.contains c

/-- The text without a fragment. -/
def dropFragment (cs : List Char) : List Char := cs.takeWhile (fun c => c ≠ '#')

/-- Reads a path and an optional query; an empty path is the root. -/
def readPath? (scheme : Option String) (cs : List Char) : Option Target :=
  let (path, query) :=
    match cutFirst '?' (dropFragment cs) with
    | some (path, query) => (path, some query)
    | none => (dropFragment cs, none)
  if path.all isPathChar && query.all (fun q => q.all isQueryChar) then
    some ⟨scheme, if path.isEmpty then "/" else String.ofList path, query.map String.ofList⟩
  else none

/-! ## Authorities -/

/-- A character of an authority that stands for itself. -/
def isAuthorityChar (c : Char) : Bool := c.isAlphanum || "!$&'()*+,-.;=_~".toList.contains c

/-- What is known of an authority while it is read from left to right. -/
structure AuthorityScan where
  /-- Colons since the user part or the bracketed host ended. -/
  colons : Nat
  /-- Whether a percent sign has been seen since then. -/
  percent : Bool
  /-- Whether the bracket of a numeric host has been opened. -/
  opened : Bool
  /-- Whether it has been closed. -/
  closed : Bool
  /-- Whether the last character ended the user part. -/
  afterUser : Bool

/-- The state before the first character. -/
def AuthorityScan.start : AuthorityScan := ⟨0, false, false, false, false⟩

/-- Takes one more character; at most eight colons may stand in a row of parts. -/
def AuthorityScan.step? (scan : AuthorityScan) (c : Char) : Option AuthorityScan :=
  let scan := { scan with afterUser := false }
  if c = ':' then
    if scan.colons ≥ 8 then none else some { scan with colons := scan.colons + 1 }
  else if c = '[' then
    if scan.percent || scan.opened then none else some { scan with opened := true }
  else if c = ']' then
    if !scan.opened || scan.closed then none
    else some { scan with closed := true, colons := 0, percent := false }
  else if c = '@' then some { scan with colons := 0, percent := false, afterUser := true }
  else if c = '%' then some { scan with percent := true }
  else if isAuthorityChar c then some scan
  else none

/-- An authority may end here: brackets match, at most one colon, a host without escapes. -/
def AuthorityScan.complete (scan : AuthorityScan) : Bool :=
  scan.opened == scan.closed && scan.colons ≤ 1 && !scan.afterUser && !scan.percent

/-- Whether a text is an authority; the empty one is. -/
def isAuthority (cs : List Char) : Bool :=
  (cs.foldlM AuthorityScan.step? AuthorityScan.start).any AuthorityScan.complete

/-- A character that starts what follows an authority. -/
def endsAuthority (c : Char) : Bool := c = '/' || c = '?' || c = '#'

/-! ## Schemes -/

/-- A character that a scheme may hold. -/
def isSchemeChar (c : Char) : Bool := c.isAlphanum || "+-.~".toList.contains c

/-- What stands before and after `://`, if only scheme characters stand before it. -/
def cutScheme? (cs : List Char) : Option (List Char × List Char) :=
  match cs.dropWhile isSchemeChar with
  | ':' :: '/' :: '/' :: rest => some (cs.takeWhile isSchemeChar, rest)
  | _ => none

/-- The longest scheme that is read. -/
def longestScheme : Nat := 64

/-! ## All three forms -/

/-- Reads a target that does not start with a slash. -/
def readFull? (cs : List Char) : Option Target :=
  match cutScheme? cs with
  | some (scheme, rest) =>
    let authority := rest.takeWhile (fun c => !endsAuthority c)
    if scheme.length ≤ longestScheme && !authority.isEmpty && isAuthority authority then
      readPath? (some (String.ofList scheme)) (rest.dropWhile (fun c => !endsAuthority c))
    else none
  | none => if isAuthority cs then some ⟨none, "", none⟩ else none

/-- The longest target that is read, in bytes; a fragment counts. -/
def longest : Nat := UInt16.size - 2

/-- Reads a request target. -/
def read? (text : String) : Option Target :=
  if longest < text.utf8ByteSize then none
  else
    match text.toList with
    | [] => none
    | ['*'] => some ⟨none, "*", none⟩
    | '/' :: cs => readPath? none ('/' :: cs)
    | cs => readFull? cs

end Target

end Gatehouse.Http
