import RoleDaemon.Json.Scan

/-!
# Reading Typed Values from JSON Text

A reader takes a value of one shape off the head of a text.  What does not have the shape is refused
where it is met, before anything behind it is looked at.  Records are read from objects, whose unknown
members are passed over, and also from lists, which give the fields in order.

Main definitions:
- `Reader`: what reads a value
- `unsigned`, `bool`, `string`, `parsed`, `optional`, `list`: readers for the plain shapes
- `Record`: the fields of a record
- `Record.read`: the reader of a record
- `document`: the value that makes up a whole text
-/

namespace RoleDaemon.Json

open Text

/-- Takes a value off the head of a text. -/
abbrev Reader (α : Type) := List Char → Except Fault (α × List Char)

namespace Reader

/-! ## §1 Plain Shapes -/

/-- The fault of a value that starts with the given characters and has another shape than the one
    wanted. -/
def mismatch (expected : String) (c : Char) (rest : List Char) : Fault :=
  let typed (scan : Scan Found) : Fault :=
    match scan with
    | .ok (found, _) => .invalidType found expected
    | .error e => e
  if c = 'n' then typed ((word ['u', 'l', 'l'] rest).map fun (_, rest) => (.null, rest))
  else if c = 't' then typed ((word ['r', 'u', 'e'] rest).map fun (_, rest) => (.bool true, rest))
  else if c = 'f' then
    typed ((word ['a', 'l', 's', 'e'] rest).map fun (_, rest) => (.bool false, rest))
  else if c = '-' then typed ((number true rest).map fun (n, rest) => (n.found, rest))
  else if isDigit c then typed ((number false (c :: rest)).map fun (n, rest) => (n.found, rest))
  else if c = '"' then typed ((Json.string rest).map fun (s, rest) => (.str s, rest))
  else if c = '[' then .invalidType .sequence expected
  else if c = '\x7b' then .invalidType .map expected
  else .valueExpected

/-- The integer that a number is, when it is not above the bound. -/
def bounded (bound : Nat) (expected : String) : Number → Except Fault Nat
  | .unsigned n => if n ≤ bound then .ok n else .error (.invalidValue (.unsigned n) expected)
  | .negative n => .error (.invalidValue (.negative n) expected)
  | .real minus size => .error (.invalidType (.real minus size) expected)

/-- An integer from 0 to the bound. -/
def unsigned (bound : Nat) (expected : String) : Reader Nat := fun cs =>
  match skipBlanks cs with
  | [] => .error .endInValue
  | c :: rest =>
    if c = '-' ∨ isDigit c then
      match (if c = '-' then number true rest else number false (c :: rest)) with
      | .error e => .error e
      | .ok (n, rest) => (bounded bound expected n).map fun n => (n, rest)
    else .error (mismatch expected c rest)

/-- An integer of 8 bits. -/
def uint8 : Reader UInt8 := fun cs =>
  (unsigned (UInt8.size - 1) "u8" cs).map fun (n, rest) => (n.toUInt8, rest)

/-- An integer of 16 bits. -/
def uint16 : Reader UInt16 := fun cs =>
  (unsigned (UInt16.size - 1) "u16" cs).map fun (n, rest) => (n.toUInt16, rest)

/-- An integer of 64 bits. -/
def uint64 : Reader UInt64 := fun cs =>
  (unsigned (UInt64.size - 1) "u64" cs).map fun (n, rest) => (n.toUInt64, rest)

/-- One of the two truth values. -/
def bool : Reader Bool := fun cs =>
  match skipBlanks cs with
  | [] => .error .endInValue
  | c :: rest =>
    if c = 't' then (word ['r', 'u', 'e'] rest).map fun (_, rest) => (true, rest)
    else if c = 'f' then (word ['a', 'l', 's', 'e'] rest).map fun (_, rest) => (false, rest)
    else .error (mismatch "a boolean" c rest)

/-- A string, named in messages as the given kind of text. -/
def string (expected : String) : Reader String := fun cs =>
  match skipBlanks cs with
  | [] => .error .endInValue
  | c :: rest => if c = '"' then Json.string rest else .error (mismatch expected c rest)

/-- A string that spells a value. -/
def parsed {α : Type} (expected : String) (parse : String → Except String α) : Reader α := fun cs =>
  match string expected cs with
  | .error e => .error e
  | .ok (s, rest) =>
    match parse s with
    | .ok a => .ok (a, rest)
    | .error reason => .error (.unreadable reason)

/-- A value, or `null` for none. -/
def optional {α : Type} (read : Reader α) : Reader (Option α) := fun cs =>
  match skipBlanks cs with
  | 'n' :: rest => (word ['u', 'l', 'l'] rest).map fun (_, rest) => (none, rest)
  | cs => (read cs).map fun (a, rest) => (some a, rest)

/-! ## §2 Lists -/

/-- Goes on to the next element of a list, if there is one; `first` tells that none was read yet. -/
def nextElement (first : Bool) (cs : List Char) : Except Fault (Option (List Char)) :=
  match skipBlanks cs with
  | [] => .error .endInList
  | c :: rest =>
    if c = ']' then .ok none
    else if first then .ok (some (c :: rest))
    else if c = ',' then
      match skipBlanks rest with
      | [] => .error .endInValue
      | c :: rest => if c = ']' then .error .trailingComma else .ok (some (c :: rest))
    else .error .listSeparatorExpected

/-- Takes the end of a list, where no further element is wanted. -/
def endList (cs : List Char) : Scan Unit :=
  match skipBlanks cs with
  | [] => .error .endInList
  | c :: rest =>
    if c = ']' then .ok ((), rest)
    else if c = ',' then
      match skipBlanks rest with
      | c :: _ => if c = ']' then .error .trailingComma else .error .trailingCharacters
      | [] => .error .trailingCharacters
    else .error .trailingCharacters

/-- The elements of a list up to its end, behind those in `taken`, last one first.  `fuel` bounds
    their number. -/
def elements {α : Type} (read : Reader α) : (fuel : Nat) → (first : Bool) → (taken : List α) →
    Reader (List α)
  | 0, _, _ => fun _ => .error .endInList
  | fuel + 1, first, taken => fun cs =>
    match nextElement first cs with
    | .error e => .error e
    | .ok none => (endList cs).map fun (_, rest) => (taken.reverse, rest)
    | .ok (some cs) =>
      match read cs with
      | .error e => .error e
      | .ok (a, rest) => elements read fuel false (a :: taken) rest

/-- A list whose elements have one shape. -/
def list {α : Type} (expected : String) (read : Reader α) : Reader (List α) := fun cs =>
  match skipBlanks cs with
  | [] => .error .endInValue
  | c :: rest =>
    if c = '[' then elements read (rest.length + 1) true [] rest
    else .error (mismatch expected c rest)

end Reader

/-! ## §3 Records -/

/-- A field of a record that is built up in `σ`. -/
structure Field (σ : Type) where
  name : String
  /-- The field has no default. -/
  required : Bool
  /-- Reads the value and puts it into the record. -/
  read : σ → Reader σ

/-- A field whose value is put into the record by `set`. -/
def Field.of {σ α : Type} (name : String) (required : Bool) (read : Reader α) (set : α → σ → σ) :
    Field σ :=
  ⟨name, required, fun s cs => (read cs).map fun (a, rest) => (set a s, rest)⟩

/-- The fields of a record, in the order in which a list gives them. -/
structure Record (σ : Type) where
  /-- The record, in messages. -/
  expected : String
  fields : List (Field σ)

namespace Record

variable {σ : Type}

/-- The record and the number of its fields, in messages. -/
def expectedLength (record : Record σ) : String :=
  record.expected ++ " with " ++ decimalText record.fields.length ++
    (if record.fields.length = 1 then " element" else " elements")

/-- Goes on to the next key of an object, if there is one, up to behind its opening quote. -/
def nextKey (first : Bool) (cs : List Char) : Except Fault (Option (List Char)) :=
  let key (c : Char) (rest : List Char) : Except Fault (Option (List Char)) :=
    if c = '"' then .ok (some rest) else .error .keyNotString
  match skipBlanks cs with
  | [] => .error .endInObject
  | c :: rest =>
    if c = '\x7d' then .ok none
    else if first then key c rest
    else if c = ',' then
      match skipBlanks rest with
      | [] => .error .endInValue
      | c :: rest => if c = '\x7d' then .error .trailingComma else key c rest
    else .error .objectSeparatorExpected

def colon (cs : List Char) : Scan Unit :=
  match skipBlanks cs with
  | [] => .error .endInObject
  | c :: rest => if c = ':' then .ok ((), rest) else .error .colonExpected

/-- Takes the end of an object, where no further member is wanted. -/
def endObject (cs : List Char) : Scan Unit :=
  match skipBlanks cs with
  | [] => .error .endInObject
  | c :: rest =>
    if c = '\x7d' then .ok ((), rest)
    else if c = ',' then .error .trailingComma
    else .error .trailingCharacters

/-- A fault met inside a field. -/
def inField {α : Type} (name : String) : Except Fault α → Except Error α
  | .ok a => .ok a
  | .error fault => .error ⟨some name, fault⟩

def between {α : Type} : Except Fault α → Except Error α
  | .ok a => .ok a
  | .error fault => .error (.ofFault fault)

/-- One member of an object, from behind the opening quote of its key on: the name of the known field
    that it gives, if it gives one, and the record with its value. -/
def member (record : Record σ) (seen : List String) (s : σ) (cs : List Char) :
    Except Error (Option String × σ × List Char) := do
  let (name, cs) ← between (Json.string cs)
  match record.fields.find? (·.name = name) with
  | none =>
    let ((), cs) ← between (colon cs)
    let ((), cs) ← inField name (skipValue cs)
    .ok (none, s, cs)
  | some field =>
    if seen.contains name then .error (.ofFault (.duplicateField name))
    else
      let ((), cs) ← between (colon cs)
      let (s, cs) ← inField name (field.read s cs)
      .ok (some name, s, cs)

/-- The members of an object up to its end, where the fields `seen` were given before.  `fuel` bounds
    their number. -/
def members (record : Record σ) : (fuel : Nat) → (first : Bool) → (seen : List String) → σ →
    List Char → Except Error (σ × List Char)
  | 0, _, _, _, _ => .error (.ofFault .endInObject)
  | fuel + 1, first, seen, s, cs =>
    match nextKey first cs with
    | .error e => .error (.ofFault e)
    | .ok none =>
      match record.fields.find? fun f => f.required && !seen.contains f.name with
      | some field => .error (.ofFault (.missingField field.name))
      | none => (between (endObject cs)).map fun (_, rest) => (s, rest)
    | .ok (some cs) =>
      match member record seen s cs with
      | .error e => .error e
      | .ok (some name, s, cs) => members record fuel false (name :: seen) s cs
      | .ok (none, s, cs) => members record fuel false seen s cs

/-- The fields given by the elements of a list, in order; those that the list does not reach keep
    their defaults. -/
def positional (record : Record σ) : (fields : List (Field σ)) → (index : Nat) → σ → List Char →
    Except Error (σ × List Char)
  | [], _, s, cs => (between (Reader.endList cs)).map fun (_, rest) => (s, rest)
  | field :: fields, index, s, cs =>
    match Reader.nextElement (index == 0) cs with
    | .error e => .error (.ofFault e)
    | .ok none =>
      if field.required then .error (.ofFault (.invalidLength index record.expectedLength))
      else positional record fields (index + 1) s cs
    | .ok (some cs) =>
      match field.read s cs with
      | .error e => .error ⟨some ("[" ++ decimalText index ++ "]"), e⟩
      | .ok (s, cs) => positional record fields (index + 1) s cs

/-- The record at the head of the text, starting from the defaults. -/
def readAt (record : Record σ) (defaults : σ) (cs : List Char) : Except Error (σ × List Char) :=
  match skipBlanks cs with
  | [] => .error (.ofFault .endInValue)
  | c :: rest =>
    if c = '[' then record.positional record.fields 0 defaults rest
    else if c = '\x7b' then record.members (rest.length + 1) true [] defaults rest
    else .error (.ofFault (Reader.mismatch record.expected c rest))

/-- The reader of a record inside another value. -/
def read (record : Record σ) (defaults : σ) : Reader σ := fun cs =>
  match record.readAt defaults cs with
  | .ok result => .ok result
  | .error e => .error e.fault

/-- The record that makes up the whole text, starting from the defaults. -/
def document (record : Record σ) (defaults : σ) (s : String) : Except Error σ :=
  match record.readAt defaults s.toList with
  | .error e => .error e
  | .ok (value, rest) =>
    if (skipBlanks rest).isEmpty then .ok value else .error (.ofFault .trailingCharacters)

end Record

end RoleDaemon.Json
