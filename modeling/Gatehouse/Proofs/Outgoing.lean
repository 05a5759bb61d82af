import Gatehouse.Proofs.Serving

/-!
# How an answer leaves the service

Whoever answers, the service adds two fields on the way out: the id of the request
and the length of the body. It adds them behind all other fields, and only where
the answer does not bear them already (`labelled`). So two answers that the service
sends out differ in nothing but what was answered and, it may be, in the id
(`labelled_alike`); and what was answered is still there, field by field
(`labelled_alike_answer`).
-/

namespace Gatehouse.Proofs

open Gatehouse Http Text

def lengthField : String := "content-length"

/-- The id that a request is served under: its own, or else the fresh one. -/
def idOf (fresh : String) (request : Request) : String :=
  (request.headers.value? Service.idField).getD fresh

/-- The answer with an id and the length of its body, unless it bears them already. -/
def labelled (id : String) (answer : Response) : Response :=
  { answer with
    headers := (answer.headers.ensure Service.idField id).ensure lengthField
      (toString answer.body.utf8ByteSize) }

/-- Two responses that differ at most in fields of these names. -/
structure AlikeBut (names : List String) (response other : Response) : Prop where
  status : response.status = other.status
  body : response.body = other.body
  headers : response.headers.filter (fun h => h.name ∉ names) =
    other.headers.filter (fun h => h.name ∉ names)

theorem ensure_eq_append (headers : Headers) (name value : String) :
    headers.ensure name value =
      headers ++ if headers.has name then [] else [⟨lowerAscii name, value⟩] := by
  rw [Headers.ensure]
  split
  · rw [List.append_nil]
  · rfl

/-- A field that does not count may be ensured or not. -/
theorem filter_ensure_of_false {p : Header → Bool} {name value : String} (headers : Headers)
    (h : p ⟨lowerAscii name, value⟩ = false) :
    (headers.ensure name value).filter p = headers.filter p := by
  rw [ensure_eq_append, List.filter_append]
  split
  · rw [List.filter_nil, List.append_nil]
  · simp [h]

theorem filter_ensure {names : List String} {name : String} (headers : Headers) (value : String)
    (h : lowerAscii name ∈ names) :
    (headers.ensure name value).filter (fun h => h.name ∉ names) =
      headers.filter (fun h => h.name ∉ names) := by
  refine filter_ensure_of_false headers ?_
  simp [h]

theorem labelled_alike_answer (id : String) (answer : Response) :
    AlikeBut [Service.idField, lengthField] (labelled id answer) answer := by
  refine ⟨rfl, rfl, ?_⟩
  rw [labelled, filter_ensure _ _ (by decide), filter_ensure _ _ (by decide)]

theorem labelled_alike (id other : String) (answer : Response) :
    AlikeBut [Service.idField] (labelled id answer) (labelled other answer) := by
  refine ⟨rfl, rfl, ?_⟩
  -- whether a length is added does not depend on the id that was added before it
  have hlength : ∀ value, (answer.headers.ensure Service.idField value).has lengthField =
      answer.headers.has lengthField := by
    intro value
    rw [Headers.has, value?_ensure_of_ne value (by decide), Headers.has]
  simp only [labelled]
  rw [ensure_eq_append _ lengthField, ensure_eq_append _ lengthField, hlength, hlength,
    List.filter_append, List.filter_append, filter_ensure _ _ (by decide),
    filter_ensure _ _ (by decide)]

/-- An answer to `GET` leaves with its two labels. -/
theorem dress_get (fresh : String) (request : Request) (answer : Response) :
    Service.dress "GET" (Service.bearId (Service.identified fresh request) answer) =
      labelled (idOf fresh request) answer := by
  have hid : (Service.identified fresh request).headers.value? Service.idField =
      some (idOf fresh request) := Headers.value?_ensure request.headers Service.idField fresh
  rw [Service.dress_of_isRead rfl, Service.bearId, hid]
  rfl

end Gatehouse.Proofs
