import RoleDaemon.Http.MediaType
import RoleDaemon.Http.Message
import RoleDaemon.Json.Read

/-!
# JSON Bodies

A call takes its arguments from a JSON body.  The body is refused when the content type does not say
JSON, when it is too long, when it is not JSON, or when it has the wrong shape, in this order.

Main definitions:
- `BodyFault`: why a body is refused
- `BodyFault.response`: the answer to a request with such a body
- `readJson`: the record in the body of a request
-/

namespace RoleDaemon.Http

/-- Why the body of a request is refused. -/
inductive BodyFault where
  /-- The content type does not say JSON. -/
  | wrongType
  /-- The body is too long. -/
  | tooLong
  /-- The body is not JSON, or no JSON of the wanted shape. -/
  | unreadable (error : Json.Error)
  deriving DecidableEq, Repr

/-- The longest body that is accepted, in bytes. -/
def bodyLimit : Nat := 2 * 1024 * 1024

/-- The answer to a request with a refused body: the status tells what is wrong in kind, and the text
    in detail. -/
def BodyFault.response : BodyFault → Response
  | wrongType => .plain 415 "Expected request with `Content-Type: application/json`"
  | tooLong => .plain 413 "Failed to buffer the request body: length limit exceeded"
  | unreadable error =>
    match error.fault.category with
    | .data =>
      .plain 422 ("Failed to deserialize the JSON body into the target type: " ++ error.message)
    | _ => .plain 400 ("Failed to parse the request body as JSON: " ++ error.message)

/-- The record in the body of a request. -/
def readJson {σ : Type} (record : Json.Record σ) (defaults : σ) (request : Request) :
    Except BodyFault σ :=
  if ((request.header? "content-type").map isJsonContent).getD false then
    if bodyLimit < request.body.utf8ByteSize then .error .tooLong
    else
      match record.document defaults request.body with
      | .ok value => .ok value
      | .error error => .error (.unreadable error)
  else .error .wrongType

end RoleDaemon.Http
