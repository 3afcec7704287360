import RoleDaemon.Uuid

/-!
# Media Types

A media type names a type and a subtype, the subtype may end in a suffix behind a plus sign, and
parameters may follow.  Only types that say JSON, by their subtype or by their suffix, are accepted
for JSON bodies.

Main definitions:
- `MediaType`: type, subtype and suffix
- `MediaType.parse?`: reads a media type with all of its parameters
- `MediaType.isJson`: the JSON types
-/

namespace RoleDaemon.Http

/-- A media type without its parameters, in small letters. -/
structure MediaType where
  type : List Char
  subtype : List Char
  suffix? : Option (List Char)
  deriving DecidableEq, Repr

namespace MediaType

/-- The characters of names: letters, digits and some signs of ASCII. -/
def isToken (c : Char) : Bool :=
  let n := c.toNat
  (48 ≤ n && n ≤ 57) || (65 ≤ n && n ≤ 90) || (97 ≤ n && n ≤ 122) ||
    "!#$%&'*+-.^_\x60|~".toList.contains c

/-- The characters that may stand in a quoted value. -/
def isQuotable (c : Char) : Bool :=
  31 < c.toNat && c.toNat != 127

/-- The characters of a header value that can be read as text. -/
def isVisible (c : Char) : Bool :=
  c = '\t' || (32 ≤ c.toNat && c.toNat < 127)

/-! ## §1 Parameters -/

/-- What stands behind the value of a parameter: the next parameter, nothing, or a fault. -/
inductive After where
  | parameter (rest : List Char)
  | nothing
  | fault
  deriving DecidableEq, Repr

/-- The text behind a value in quotes: blanks, and then a semicolon or the end. -/
def afterQuoted (cs : List Char) : After :=
  match cs.dropWhile (· = ' ') with
  | [] => .nothing
  | ';' :: rest => .parameter rest
  | _ => .fault

/-- The text behind the value of a parameter.  A value in quotes is not empty, and a bare value is
    not empty where a semicolon follows. -/
def afterValue : List Char → After
  | '"' :: cs =>
    -- the first character belongs to the value, also when it is a quote
    match cs with
    | [] => .fault
    | c :: rest =>
      if !isQuotable c then .fault
      else
        match rest.dropWhile fun c => isQuotable c && c != '"' with
        | '"' :: rest => afterQuoted rest
        | _ => .fault
  | cs =>
    match cs.span isToken with
    | (_, []) => .nothing
    | (value, ';' :: rest) => if value.isEmpty then .fault else .parameter rest
    | _ => .fault

/-- The text behind the name of a parameter and the equals sign. -/
def afterName? (cs : List Char) : Option (List Char) :=
  match cs.span isToken with
  | (name, '=' :: rest) => if name.isEmpty then none else some rest
  | _ => none

/-- The text is a list of parameters, with blanks before each of them.  `fuel` bounds their number. -/
def areParameters : (fuel : Nat) → List Char → Bool
  | 0, _ => false
  | fuel + 1, cs =>
    match cs.dropWhile (· = ' ') with
    | [] => true
    | cs =>
      match (afterName? cs).map afterValue with
      | some .nothing => true
      | some (.parameter rest) => areParameters fuel rest
      | _ => false

/-! ## §2 Types -/

/-- The name and the suffix of a subtype: the suffix starts behind the last plus sign, unless that is
    the first character. -/
def splitSuffix (cs : List Char) : List Char × Option (List Char) :=
  let suffix := (cs.reverse.takeWhile (· != '+')).reverse
  let rest := cs.take (cs.length - suffix.length - 1)
  if rest.isEmpty ∨ suffix.length = cs.length then (cs, none) else (rest, some suffix)

/-- The media type that a text spells. -/
def parse? (s : String) : Option MediaType :=
  match s.toList.span isToken with
  | (type, '/' :: rest) =>
    if type.isEmpty then none
    else
      let (subtype, rest) := rest.span isToken
      let (name, suffix?) := splitSuffix subtype
      let parsed : MediaType :=
        ⟨type.map Uuid.lower, name.map Uuid.lower, suffix?.map (·.map Uuid.lower)⟩
      match rest with
      | [] => some parsed
      | ';' :: rest =>
        if subtype.isEmpty then none
        else if areParameters (rest.length + 1) rest then some parsed else none
      | _ => none
  | _ => none

/-- The type is an application format whose subtype or suffix is JSON. -/
def isJson (mediaType : MediaType) : Bool :=
  mediaType.type = "application".toList &&
    (mediaType.subtype = "json".toList || mediaType.suffix? = some "json".toList)

end MediaType

/-- The value of a content type header says JSON. -/
def isJsonContent (value : String) : Bool :=
  value.toList.all MediaType.isVisible &&
    ((MediaType.parse? value).map MediaType.isJson).getD false

end RoleDaemon.Http
