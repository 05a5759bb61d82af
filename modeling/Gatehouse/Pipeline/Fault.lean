import Gatehouse.Text.Quoted

/-!
# Faults

A guard that cannot do its work reports a fault: a message and, if something else
is to blame, a cause. A fault is not a rejection; a rejected request is answered,
and that is a verdict. What goes wrong with a pipeline as a whole is a
`PipelineError`. Each has a `message` for its reader, and an `inspect` text for
the log that shows how it is made up.
-/

namespace Gatehouse

open Text

/-- What is to blame for a fault. -/
inductive Cause where
  /-- Credentials cannot be looked up at present. -/
  | unavailable (reason : String)
  /-- Anything else, in the words of whoever reported it. -/
  | reported (text : String)
  deriving DecidableEq, Repr

/-- Why a guard could not do its work. -/
structure Fault where
  message : String
  cause : Option Cause
  deriving DecidableEq, Repr

/-- What goes wrong with a pipeline. -/
inductive PipelineError where
  /-- It could not be sealed. -/
  | configuration (problem : String)
  /-- One of its guards reported a fault. -/
  | guardFailed (guard : String) (fault : Fault)
  /-- The visit had been through a pipeline before. -/
  | alreadyTerminated
  deriving DecidableEq, Repr

namespace Cause

def message : Cause → String
  | unavailable reason => "credential backend unavailable: " ++ reason
  | reported text => text

def inspect : Cause → String
  | unavailable reason => "Unavailable(" ++ Quoted.ofString reason ++ ")"
  | reported text => "Source(" ++ Quoted.ofString text ++ ")"

end Cause

namespace Fault

def inspect (fault : Fault) : String :=
  let source :=
    match fault.cause with
    | some cause => "Some(" ++ cause.inspect ++ ")"
    | none => "None"
  "FilterError \x7b message: " ++ Quoted.ofString fault.message ++ ", source: " ++ source ++ " \x7d"

end Fault

namespace PipelineError

def message : PipelineError → String
  | configuration problem => "invalid filter configuration: " ++ problem
  | guardFailed guard fault => "filter `" ++ guard ++ "` failed: " ++ fault.message
  | alreadyTerminated => "filter chain already ran for this request"

/-- The messages of what lies behind an error, outermost first. -/
def causes : PipelineError → List String
  | guardFailed _ fault => fault.message :: fault.cause.toList.map Cause.message
  | _ => []

def inspect : PipelineError → String
  | configuration problem => "Configuration(" ++ Quoted.ofString problem ++ ")"
  | guardFailed guard fault =>
    "Filter \x7b filter: " ++ Quoted.ofString guard ++ ", source: " ++ fault.inspect ++ " \x7d"
  | alreadyTerminated => "AlreadyTerminated"

end PipelineError

end Gatehouse
