import Gatehouse.Http.Message
import Gatehouse.Text.Base64
import Gatehouse.Text.Blank
import Gatehouse.Text.Quoted

/-!
# Credentials in a request

A scheme says how credentials of one type are carried by a request. There are
two. A bearer token stands after the word `Bearer` in the authorization field or,
in a request without such a field, in the query parameter `access_token`. A login
stands after the word `Basic`, as the Base64 text of name, colon and password;
the name ends at the first colon, so a password may hold more of them.

Anything malformed counts as no credentials. An authorization field that is there
shuts out the query, however malformed it is.
-/

namespace Gatehouse

open Http Text

/-- A way for requests to carry credentials of type `α`. -/
structure Scheme (α : Type) where
  name : String
  /-- The credentials of a request, if it carries any. -/
  extract : Request → Option α

/-- A bearer token. -/
structure Token where
  text : String
  deriving DecidableEq, Repr

/-- A user name and a password. -/
structure Login where
  username : String
  password : String
  deriving DecidableEq, Repr

/-- The name of the field that carries credentials. -/
def authorizationField : String := "authorization"

/-- What stands after the name of the scheme in the authorization field; letter case of the name
is free, and blanks around the value do not count. -/
def authorizationValue? (scheme : String) (headers : Headers) : Option String := do
  let field ← headers.text? authorizationField
  let (word, value) ← cutFirst ' ' (trim field.toList)
  let value := trim value
  if sameLetters (String.ofList word) scheme && !value.isEmpty then some (String.ofList value)
  else none

namespace Token

/-- The query parameter that carries a token. -/
def parameter : String := "access_token"

/-- The token in the query, without the blanks around it. -/
def ofQuery? (target : Target) : Option Token :=
  ((target.parameter? parameter).map trimString).filter (fun text => !text.isEmpty) |>.map Token.mk

/-- What the log shows of a token. -/
def inspect (_token : Token) : String := "BearerToken(..)"

end Token

namespace Login

/-- Reads the encoded form of a login. -/
def read? (encoded : String) : Option Login := do
  let bytes ← Base64.read? encoded.toList
  let text ← Utf8.strict? bytes
  let (username, password) ← cutFirst ':' text
  return ⟨String.ofList username, String.ofList password⟩

/-- The encoded form of a login. -/
def write (login : Login) : String :=
  String.ofList (Base64.write (Utf8.ofString (login.username ++ ":" ++ login.password)))

/-- What the log shows of a login. -/
def inspect (login : Login) : String :=
  "BasicCredentials \x7b username: " ++ Quoted.ofString login.username ++ ", .. \x7d"

end Login

namespace Scheme

/-- Tokens, in the authorization field or else in the query. -/
def bearer : Scheme Token where
  name := "Bearer"
  extract request :=
    if request.headers.has authorizationField then
      (authorizationValue? "Bearer" request.headers).map Token.mk
    else Token.ofQuery? request.target

/-- Logins, in the authorization field only. -/
def basic : Scheme Login where
  name := "Basic"
  extract request := (authorizationValue? "Basic" request.headers).bind Login.read?

end Scheme

end Gatehouse
