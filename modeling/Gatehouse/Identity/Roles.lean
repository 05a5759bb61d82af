/-!
# Role sets

The roles of a caller are a set: neither the order in which they were granted nor
a repetition can be observed. A set is stored as its strictly ascending list, by
code points, so each set has one representation and is shown in one way.
-/

namespace Gatehouse

/-- A finite set of role names. -/
structure Roles where
  names : List String
  /-- Each name once, in order. -/
  ascending : names.Pairwise (· < ·)
  deriving DecidableEq

namespace Roles

/-- Puts `role` in its place unless it is there. -/
def place (role : String) : List String → List String
  | [] => [role]
  | name :: names =>
    if role < name then role :: name :: names
    else if role = name then name :: names
    else name :: place role names

theorem mem_place {role name : String} {names : List String} :
    name ∈ place role names ↔ name = role ∨ name ∈ names := by
  induction names with
  | nil => simp [place]
  | cons head tail ih =>
    rw [place]
    split
    · simp
    split
    · rename_i h; subst h; simp
    · simp only [List.mem_cons, ih]
      exact ⟨fun h => by rcases h with h | h | h <;> simp [h],
        fun h => by rcases h with h | h | h <;> simp [h]⟩

theorem lt_of_not {role name : String} (h : ¬ role < name) (hne : role ≠ name) : name < role :=
  Classical.byContradiction fun hn =>
    hne (String.le_antisymm (String.not_lt.1 hn) (String.not_lt.1 h))

theorem place_ascending {role : String} {names : List String} (h : names.Pairwise (· < ·)) :
    (place role names).Pairwise (· < ·) := by
  induction names with
  | nil => simp [place]
  | cons head tail ih =>
    obtain ⟨hh, ht⟩ := List.pairwise_cons.1 h
    rw [place]
    split
    · rename_i hlt
      refine List.pairwise_cons.2 ⟨fun n hn => ?_, h⟩
      rcases List.mem_cons.1 hn with rfl | hn
      · exact hlt
      · exact String.lt_trans hlt (hh n hn)
    split
    · exact h
    · rename_i hlt hne
      refine List.pairwise_cons.2 ⟨fun n hn => ?_, ih ht⟩
      rcases mem_place.1 hn with rfl | hn
      · exact lt_of_not hlt hne
      · exact hh n hn

/-- No roles. -/
def empty : Roles := ⟨[], .nil⟩

/-- The set with one more role. -/
def insert (roles : Roles) (role : String) : Roles :=
  ⟨place role roles.names, place_ascending roles.ascending⟩

/-- The set of the listed roles. -/
def ofList (names : List String) : Roles := names.foldr (fun name roles => roles.insert name) empty

/-- Whether a role is in the set. -/
def contains (roles : Roles) (role : String) : Bool := roles.names.contains role

/-- Listing a role is what puts it into the set. -/
theorem mem_ofList {role : String} {names : List String} :
    role ∈ (ofList names).names ↔ role ∈ names := by
  induction names with
  | nil => simp [ofList, empty]
  | cons head tail ih =>
    have : (ofList (head :: tail)).names = place head (ofList tail).names := rfl
    rw [this, mem_place, ih, List.mem_cons]

end Roles

end Gatehouse
