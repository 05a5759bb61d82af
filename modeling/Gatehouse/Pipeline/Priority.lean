/-!
# Priorities

Guards run in ascending order of priority. Five bands have names, which are shown
with the number; any other number stands alone. Negative priorities are reserved.
-/

namespace Gatehouse

/-- The place of a guard; lower values run first. -/
structure Priority where
  value : Int
  deriving DecidableEq, Repr

namespace Priority

def authentication : Priority := ⟨1000⟩
def authorization : Priority := ⟨2000⟩
def headerDecorator : Priority := ⟨3000⟩
def entityCoder : Priority := ⟨4000⟩
def user : Priority := ⟨5000⟩

/-- Negative priorities are reserved. -/
def isValid (priority : Priority) : Bool := 0 ≤ priority.value

instance : LE Priority := ⟨fun p q => p.value ≤ q.value⟩
instance : LT Priority := ⟨fun p q => p.value < q.value⟩

instance (p q : Priority) : Decidable (p ≤ q) := inferInstanceAs (Decidable (p.value ≤ q.value))
instance (p q : Priority) : Decidable (p < q) := inferInstanceAs (Decidable (p.value < q.value))

theorem le_total (p q : Priority) : p ≤ q ∨ q ≤ p := Int.le_total p.value q.value

theorem le_trans {p q r : Priority} (h : p ≤ q) (h' : q ≤ r) : p ≤ r := Int.le_trans h h'

theorem le_antisymm {p q : Priority} (h : p ≤ q) (h' : q ≤ p) : p = q :=
  congrArg Priority.mk (Int.le_antisymm h h')

theorem not_le {p q : Priority} : ¬ p ≤ q ↔ q < p := Int.not_le

/-- The named bands. -/
def band? (priority : Priority) : Option String :=
  if priority = authentication then some "authentication"
  else if priority = authorization then some "authorization"
  else if priority = headerDecorator then some "header-decorator"
  else if priority = entityCoder then some "entity-coder"
  else if priority = user then some "user"
  else none

/-- The number, after the name of its band if it has one. -/
def text (priority : Priority) : String :=
  match priority.band? with
  | some band => s!"{band}({priority.value})"
  | none => toString priority.value

end Priority

/-- What a guard is for; it decides which guards must run before which. -/
inductive Kind where
  | authentication
  | authorization
  | general
  deriving DecidableEq, Repr

end Gatehouse
