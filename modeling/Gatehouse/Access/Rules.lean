import Gatehouse.Identity.Roles

/-!
# Access rules

A rule governs an area, the paths that start with it. An area ends at a boundary
between segments: `/admin` covers `/admin` and `/admin/x` but not
`/administrator`, while an area that ends with a slash covers whatever follows.

Areas that cover one path are starts of each other, so the longest is the most
specific, and its rule decides; of two rules for one area the later one does. A
path in no area has no rule.
-/

namespace Gatehouse

/-- Who may pass. -/
inductive Rule where
  | permitAll
  | denyAll
  /-- Any principal. -/
  | authenticated
  /-- A principal that holds one of the roles. -/
  | anyOf (roles : Roles)
  deriving DecidableEq

/-- A rule and the area that it governs. -/
structure AreaRule where
  area : String
  rule : Rule
  deriving DecidableEq

/-- What `path` goes on with after `start`, if it starts with it. -/
def remainder? : (start path : List Char) → Option (List Char)
  | [], path => some path
  | _ :: _, [] => none
  | c :: start, d :: path => if c = d then remainder? start path else none

/-- Whether a path lies in an area. -/
def covers (area path : String) : Bool :=
  match remainder? area.toList path.toList with
  | some rest => rest.isEmpty || rest.head? == some '/' || area.toList.getLast? == some '/'
  | none => false

/-- The rule of the longest area that covers `path`, the last one among equals. -/
def governing? (rules : List AreaRule) (path : String) : Option AreaRule :=
  rules.foldl
    (fun best r =>
      if covers r.area path && best.all (fun b => b.area.length ≤ r.area.length) then some r
      else best)
    none

/-- The rule that decides about `path`. -/
def ruleFor? (rules : List AreaRule) (path : String) : Option Rule :=
  (governing? rules path).map AreaRule.rule

/-- A path starts with `start` exactly when it is `start` and the remainder. -/
theorem remainder?_eq_some_iff {start path rest : List Char} :
    remainder? start path = some rest ↔ path = start ++ rest := by
  induction start generalizing path with
  | nil => simp [remainder?]
  | cons c start ih =>
    cases path with
    | nil => simp [remainder?]
    | cons d path =>
      rw [remainder?]
      split
      · rename_i h; subst h; simp [ih]
      · rename_i h; simp [Ne.symm h]

end Gatehouse
