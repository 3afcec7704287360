import RoleDaemon.Number.Shortest
import RoleDaemon.Text.Quoted

/-!
# What Can Be Wrong with a JSON Text

A text is refused because it ends too early, because it is not JSON, or because it is JSON of the
wrong shape.  The three categories are kept apart, since the answer to a request depends on them.

Main definitions:
- `Json.Fault`: the faults
- `Json.Fault.category`, `Json.Fault.message`: category and wording of a fault
- `Json.Error`: a fault, with the field in which it was met
-/

namespace RoleDaemon.Json

open Text

/-! ## §1 Faults -/

/-- The three kinds of faults. -/
inductive Category where
  | syntactic
  | data
  | incomplete
  deriving DecidableEq, Repr

/-- What was met where a value of another shape was wanted. -/
inductive Found where
  | null
  | bool (value : Bool)
  | unsigned (value : Nat)
  | negative (magnitude : Nat)
  | real (minus : Bool) (size : Binary64)
  | str (value : String)
  | sequence
  | map
  deriving DecidableEq, Repr

/-- A fault of a JSON text. -/
inductive Fault where
  /-- The text ends within a list. -/
  | endInList
  /-- The text ends within an object. -/
  | endInObject
  /-- The text ends within a string. -/
  | endInString
  /-- The text ends where a value is due, or within one. -/
  | endInValue
  /-- No colon follows a key. -/
  | colonExpected
  /-- An element is followed by neither a comma nor the end of the list. -/
  | listSeparatorExpected
  /-- A member is followed by neither a comma nor the end of the object. -/
  | objectSeparatorExpected
  /-- A word starts like `null`, `true` or `false`, and goes on in another way. -/
  | wordExpected
  /-- No value starts here. -/
  | valueExpected
  /-- A backslash is followed by something that is no escape. -/
  | invalidEscape
  /-- A number is not well formed. -/
  | invalidNumber
  /-- A number is too large for the double precision format. -/
  | numberOutOfRange
  /-- A string holds a bare control character. -/
  | controlCharacter
  /-- A key is no string. -/
  | keyNotString
  /-- An escape gives the second half of a surrogate pair without the first. -/
  | loneSurrogate
  /-- An escape gives the first half of a surrogate pair, and no escape follows it. -/
  | unpairedSurrogate
  /-- A comma stands before the end of a list or an object. -/
  | trailingComma
  /-- Something follows the value. -/
  | trailingCharacters
  /-- A value has another shape than the one wanted. -/
  | invalidType (found : Found) (expected : String)
  /-- A value of the wanted shape is out of bounds. -/
  | invalidValue (found : Found) (expected : String)
  /-- A list that gives the fields of a record is too short. -/
  | invalidLength (length : Nat) (expected : String)
  /-- A field is given twice. -/
  | duplicateField (name : String)
  /-- A field without a default is not given. -/
  | missingField (name : String)
  /-- A string of the right shape does not spell a value of its type. -/
  | unreadable (reason : String)
  deriving DecidableEq, Repr

/-- The kind of a fault. -/
def Fault.category : Fault → Category
  | .endInList | .endInObject | .endInString | .endInValue => .incomplete
  | .invalidType _ _ | .invalidValue _ _ | .invalidLength _ _ | .duplicateField _
  | .missingField _ | .unreadable _ => .data
  | _ => .syntactic

/-! ## §2 Wording -/

/-- What was met, in words. -/
def Found.text : Found → String
  | .null => "null"
  | .bool true => "boolean `true`"
  | .bool false => "boolean `false`"
  | .unsigned value => "integer `" ++ decimalText value ++ "`"
  | .negative magnitude => "integer `-" ++ decimalText magnitude ++ "`"
  | .real minus size =>
    "floating point `" ++ (if minus then "-" else "") ++ String.ofList size.scientific ++ "`"
  | .str value => "string " ++ Text.quoted value
  | .sequence => "sequence"
  | .map => "map"

/-- The wording of a fault. -/
def Fault.message : Fault → String
  | .endInList => "EOF while parsing a list"
  | .endInObject => "EOF while parsing an object"
  | .endInString => "EOF while parsing a string"
  | .endInValue => "EOF while parsing a value"
  | .colonExpected => "expected `:`"
  | .listSeparatorExpected => "expected `,` or `]`"
  | .objectSeparatorExpected => "expected `,` or `\x7d`"
  | .wordExpected => "expected ident"
  | .valueExpected => "expected value"
  | .invalidEscape => "invalid escape"
  | .invalidNumber => "invalid number"
  | .numberOutOfRange => "number out of range"
  | .controlCharacter => "control character (\\u0000-\\u001F) found while parsing a string"
  | .keyNotString => "key must be a string"
  | .loneSurrogate => "lone leading surrogate in hex escape"
  | .unpairedSurrogate => "unexpected end of hex escape"
  | .trailingComma => "trailing comma"
  | .trailingCharacters => "trailing characters"
  | .invalidType found expected => "invalid type: " ++ found.text ++ ", expected " ++ expected
  | .invalidValue found expected => "invalid value: " ++ found.text ++ ", expected " ++ expected
  | .invalidLength length expected =>
    "invalid length " ++ decimalText length ++ ", expected " ++ expected
  | .duplicateField name => "duplicate field `" ++ name ++ "`"
  | .missingField name => "missing field `" ++ name ++ "`"
  | .unreadable reason => reason

/-! ## §3 Errors -/

/-- A fault with the field of the outermost record in which it was met; none when it was met between
    the fields. -/
structure Error where
  field? : Option String
  fault : Fault
  deriving DecidableEq, Repr

/-- A fault met between fields. -/
def Error.ofFault (fault : Fault) : Error := ⟨none, fault⟩

/-- The wording of the fault, behind the name of its field. -/
def Error.message (e : Error) : String :=
  match e.field? with
  | some field => field ++ ": " ++ e.fault.message
  | none => e.fault.message

end RoleDaemon.Json
