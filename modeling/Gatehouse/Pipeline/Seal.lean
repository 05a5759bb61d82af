import Gatehouse.Pipeline.Guard

/-!
# Sealing a pipeline

Guards are registered in any order and sealed into the order in which they run:
ascending by priority, and in order of registration where priorities are equal.

Sealing refuses two things. A negative priority is reserved. And a guard of kind
authorization must not run before one of kind authentication, or at the same
priority, because it would judge a caller that is not known yet. For the second
rule it is enough to hold the greatest authentication priority against the least
authorization priority: if these two are in order, all pairs are. They are also
the ones that an error names.
-/

namespace Gatehouse

open Text

/-- Guards in the order in which they run. -/
structure Pipeline where
  stages : List Registration

/-- Why registrations cannot be sealed. -/
inductive SealError where
  /-- The first registration with a negative priority. -/
  | negativePriority (culprit : Registration)
  /-- An authentication guard that does not run before an authorization guard. -/
  | outOfOrder (authentication authorization : Registration)

namespace SealError

def problem : SealError → String
  | negativePriority culprit =>
    s!"filter `{culprit.name}` has negative priority {culprit.priority.value}"
  | outOfOrder a z =>
    s!"authentication filter `{a.name}` ({a.priority.text}) must run before "
      ++ s!"authorization filter `{z.name}` ({z.priority.text})"

/-- The error as one of the pipeline that did not come about. -/
def toPipelineError (error : SealError) : PipelineError := .configuration error.problem

end SealError

namespace Pipeline

/-- The registration of greatest priority, the last one among equals. -/
def latest? : List Registration → Option Registration
  | [] => none
  | r :: rs =>
    match latest? rs with
    | some s => if r.priority ≤ s.priority then some s else some r
    | none => some r

/-- The registration of least priority, the first one among equals. -/
def earliest? : List Registration → Option Registration
  | [] => none
  | r :: rs =>
    match earliest? rs with
    | some s => if r.priority ≤ s.priority then some r else some s
    | none => some r

/-- Puts `r` before the first registration that does not run earlier. -/
def place (r : Registration) : List Registration → List Registration
  | [] => [r]
  | s :: rest => if r.priority ≤ s.priority then r :: s :: rest else s :: place r rest

/-- The registrations in ascending order of priority; equal ones keep their order. -/
def inOrder (rs : List Registration) : List Registration := rs.foldr place []

/-- The registrations of one kind. -/
def ofKind (kind : Kind) (rs : List Registration) : List Registration :=
  rs.filter (fun r => r.kind == kind)

/-- A pair that shows that authentication does not come first. -/
def misplaced? (rs : List Registration) : Option (Registration × Registration) :=
  match latest? (ofKind .authentication rs), earliest? (ofKind .authorization rs) with
  | some a, some z => if z.priority ≤ a.priority then some (a, z) else none
  | _, _ => none

/-- Seals registrations into a pipeline, or says what is wrong with them. -/
def ofRegistrations (rs : List Registration) : Except SealError Pipeline :=
  match rs.find? (fun r => !r.priority.isValid) with
  | some culprit => .error (.negativePriority culprit)
  | none =>
    match misplaced? rs with
    | some (a, z) => .error (.outOfOrder a z)
    | none => .ok ⟨inOrder rs⟩

/-- The names of the guards in the order in which they run. -/
def names (pipeline : Pipeline) : List String := pipeline.stages.map Registration.name

/-- The guards and their places, as the log shows a pipeline. -/
def inspect (pipeline : Pipeline) : String :=
  Quoted.ofStrings (pipeline.stages.map (fun r => s!"{r.name}@{r.priority.text}"))

end Pipeline

end Gatehouse
