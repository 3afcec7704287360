/-!
# Causes of Failures

A failure is explained by a chain of messages, from what was being done to what went wrong at the
bottom.

Main definitions:
- `Cause`: a chain of at least one message
- `Cause.context`: a cause with one more message in front
- `Cause.text`: the whole chain on one line
-/

namespace RoleDaemon

/-- Why something failed: the outermost message, and the messages below it. -/
structure Cause where
  message : String
  sources : List String
  deriving DecidableEq, Repr, Inhabited

namespace Cause

/-- The cause with a single message. -/
def ofMessage (message : String) : Cause := ⟨message, []⟩

/-- The cause whose chain is the list, outermost message first. -/
def ofChain? : List String → Option Cause
  | [] => none
  | message :: sources => some ⟨message, sources⟩

/-- All messages, outermost first. -/
def chain (cause : Cause) : List String :=
  cause.message :: cause.sources

/-- The same failure, seen from what was being done when it came up. -/
def context (doing : String) (cause : Cause) : Cause :=
  ⟨doing, cause.chain⟩

/-- The messages in order, with a colon and a blank between two of them. -/
def text (cause : Cause) : String :=
  ": ".intercalate cause.chain

@[simp] theorem chain_ofMessage (message : String) : (ofMessage message).chain = [message] := rfl

@[simp] theorem chain_context (doing : String) (cause : Cause) :
    (cause.context doing).chain = doing :: cause.chain := rfl

end Cause

end RoleDaemon
