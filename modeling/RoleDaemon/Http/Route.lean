import RoleDaemon.Http.Message

/-!
# Routes

A service answers requests for a fixed list of paths, each of which takes one method.  A route that
can be got can also be asked for its headers only.

Main definitions:
- `Route`: a path with its method and what is served there
- `dispatch`: what a request asks for
- `permissive`: the headers that let pages of other origins read the answers
-/

namespace RoleDaemon.Http

/-- The method that a route takes. -/
inductive Verb where
  | get
  | post
  deriving DecidableEq, Repr

/-- The methods that a route allows, as they are listed for a request with another one. -/
def Verb.allowed : Verb → String
  | get => "GET,HEAD"
  | post => "POST"

/-- What is served at a path. -/
structure Route (α : Type) where
  path : String
  verb : Verb
  page : α
  deriving Repr

/-- What a request asks for. -/
inductive Dispatch (α : Type) where
  /-- The page, or only its headers. -/
  | page (page : α) (headOnly : Bool)
  /-- The path is known, and does not take the method. -/
  | wrongMethod (allowed : Verb)
  /-- The path is not known. -/
  | unknownPath
  deriving Repr

/-- The first route with the path. -/
def route? {α : Type} (routes : List (Route α)) (path : String) : Option (Route α) :=
  routes.find? fun route => route.path = path

/-- What a request asks for. -/
def dispatch {α : Type} (routes : List (Route α)) (request : Request) : Dispatch α :=
  match route? routes request.path with
  | none => .unknownPath
  | some route =>
    match route.verb with
    | .get =>
      if request.method = "GET" then .page route.page false
      else if request.method = "HEAD" then .page route.page true
      else .wrongMethod .get
    | .post => if request.method = "POST" then .page route.page false else .wrongMethod .post

/-- The answer to a request with a method that the path does not take. -/
def methodNotAllowed (allowed : Verb) : Response :=
  ⟨405, [("allow", allowed.allowed)], .none⟩

/-- The answer to a request for an unknown path. -/
def notFound : Response := .bare 404

/-! ## Requests from Other Origins -/

/-- Which headers of a request the answers can depend on. -/
def varyHeader : String × String :=
  ("vary", "origin, access-control-request-method, access-control-request-headers")

/-- The headers that let pages of every origin read the answer. -/
def permissive : List (String × String) :=
  [("access-control-allow-origin", "*"), varyHeader, ("access-control-expose-headers", "*")]

/-- The answer to a question about what pages of other origins may ask for. -/
def preflight (known : Option Verb) : Response :=
  ⟨200,
    [("access-control-allow-origin", "*"), varyHeader, ("access-control-allow-methods", "*"),
      ("access-control-allow-headers", "*")] ++
      (known.map fun verb => ("allow", verb.allowed)).toList,
    .none⟩

end RoleDaemon.Http
