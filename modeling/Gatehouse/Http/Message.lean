import Gatehouse.Http.Header
import Gatehouse.Http.Status
import Gatehouse.Http.Target
import Gatehouse.Text.Json

/-!
# Requests and responses

A request is read from its written parts, in order: the method, the target, then
each header field, its name before its value. The first part that is not well
formed is reported, and `RequestError` says which kind of part it was. The body
of a request plays no role here, so a request has none.
-/

namespace Gatehouse.Http

open Gatehouse.Text

/-- A request without its body. -/
structure Request where
  method : String
  target : Target
  headers : Headers
  deriving DecidableEq, Repr

/-- A response. -/
structure Response where
  status : Status
  headers : Headers
  body : String
  deriving DecidableEq, Repr

/-- The part of a request that is not well formed. -/
inductive RequestError where
  | method
  | target
  | headerName
  | headerValue
  deriving DecidableEq, Repr

/-- Reads one header field. -/
def Header.read (name value : String) : Except RequestError Header :=
  if !isFieldName name then .error .headerName
  else if !isFieldValue value then .error .headerValue
  else .ok ⟨lowerAscii name, value⟩

/-- Reads the written parts of a request. -/
def Request.read (method target : String) (headers : List (String × String)) :
    Except RequestError Request := do
  if !isToken method then throw .method
  match Target.read? target with
  | none => throw .target
  | some target =>
    let headers ← headers.mapM (fun field => Header.read field.1 field.2)
    return ⟨method, target, headers⟩

/-- A response with a plain-text body. -/
def Response.plain (status : Status) (body : String) : Response :=
  ⟨status, [⟨"content-type", "text/plain; charset=utf-8"⟩], body⟩

/-- A response with a JSON body. -/
def Response.json (status : Status) (body : Json) : Response :=
  ⟨status, [⟨"content-type", "application/json"⟩], body.render⟩

/-- A response without headers and body. -/
def Response.empty (status : Status) : Response := ⟨status, [], ""⟩

end Gatehouse.Http
