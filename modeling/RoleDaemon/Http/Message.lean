import RoleDaemon.Json.Value

/-!
# HTTP Requests and Responses

Main definitions:
- `Request`, `Response`: the messages
- `Request.path`: what a request asks for
- `Response.json`, `Response.plain`, `Response.bare`: responses with a value, a text, or nothing
-/

namespace RoleDaemon.Http

/-- A request.  Names of headers are in small letters. -/
structure Request where
  method : String
  /-- The path, with the query behind a question mark and the fragment behind a number sign. -/
  target : String
  headers : List (String × String)
  body : String
  deriving Repr

namespace Request

/-- The target without the query and the fragment. -/
def path (request : Request) : String :=
  String.ofList (request.target.toList.takeWhile fun c => c != '?' && c != '#')

/-- The first header of the given name. -/
def header? (request : Request) (name : String) : Option String :=
  (request.headers.find? fun header => header.1 = name).map (·.2)

end Request

/-- The body of a response. -/
inductive Body where
  | none
  | json (value : Json)
  | text (content : String)
  deriving Repr, Inhabited

/-- A response. -/
structure Response where
  status : Nat
  headers : List (String × String)
  body : Body
  deriving Repr, Inhabited

namespace Response

/-- A response without a body. -/
def bare (status : Nat) : Response := ⟨status, [], .none⟩

def json (status : Nat) (value : Json) : Response :=
  ⟨status, [("content-type", "application/json")], .json value⟩

def plain (status : Nat) (content : String) : Response :=
  ⟨status, [("content-type", "text/plain; charset=utf-8")], .text content⟩

/-- The response with further headers behind its own. -/
def withHeaders (response : Response) (headers : List (String × String)) : Response :=
  { response with headers := response.headers ++ headers }

/-- The response without its body, as it answers a request for the headers only. -/
def headOnly (response : Response) : Response :=
  { response with body := .none }

end Response

end RoleDaemon.Http
