import RoleDaemon.Json.Fault

/-!
# Scanning JSON Text

The parts that a JSON text is made of are taken off its head one after the other: blanks, words,
strings, numbers, and whole values that nobody asked for.  Every function gives what it took and the
rest of the text, or the first fault.

Main definitions:
- `skipBlanks`, `word`: blanks and the three words
- `string`, `skipString`: a string with its escapes resolved, or passed over
- `number`: a number, as an integer of 64 bits where it is one
- `skipValue`: a whole value, passed over without a limit on its depth
-/

namespace RoleDaemon.Json

open Text

/-- What a scan gives: a result with the rest of the text, or a fault. -/
abbrev Scan (α : Type) := Except Fault (α × List Char)

/-! ## §1 Blanks and Words -/

/-- The four characters that may stand between the parts of a text. -/
def isGap (c : Char) : Bool :=
  c = ' ' || c = '\n' || c = '\t' || c = '\r'

/-- The text from the first character on that is not a gap. -/
def skipBlanks (cs : List Char) : List Char :=
  cs.dropWhile isGap

/-- The letters, in order. -/
def word : (letters : List Char) → List Char → Scan Unit
  | [], cs => .ok ((), cs)
  | _ :: _, [] => .error .endInValue
  | letter :: letters, c :: cs => if c = letter then word letters cs else .error .wordExpected

/-! ## §2 Strings -/

/-- The value of the four hexadecimal digits of an escape, and what follows them.  Fewer than four
    bytes before the end of the text are an early end, whatever they are. -/
def escapeNumber (cs : List Char) : Scan Nat :=
  match cs with
  | a :: b :: c :: d :: rest =>
    match digitValue? 16 a, digitValue? 16 b, digitValue? 16 c, digitValue? 16 d with
    | some a, some b, some c, some d => .ok (((a * 16 + b) * 16 + c) * 16 + d, rest)
    | _, _, _, _ => .error .invalidEscape
  | _ => if cs.foldl (fun n c => n + c.utf8Size) 0 < 4 then .error .endInString
    else .error .invalidEscape

def shortEscape? (c : Char) : Option Char :=
  if c = '"' then some '"'
  else if c = '\\' then some '\\'
  else if c = '/' then some '/'
  else if c = 'b' then some (Char.ofNat 8)
  else if c = 'f' then some (Char.ofNat 12)
  else if c = 'n' then some '\n'
  else if c = 'r' then some '\r'
  else if c = 't' then some '\t'
  else none

/-- The character given by number, after the letter `u`: two escapes together where the first one
    gives half of a surrogate pair. -/
def unicodeEscape (cs : List Char) : Except Fault (Char × List Char) := do
  let (n, cs) ← escapeNumber cs
  if 0xDC00 ≤ n ∧ n ≤ 0xDFFF then .error .loneSurrogate
  else if n < 0xD800 ∨ 0xDBFF < n then .ok (Char.ofNat n, cs)
  else match cs with
    | [] => .error .endInString
    | c :: cs =>
      if c ≠ '\\' then .error .unpairedSurrogate
      else match cs with
        | [] => .error .endInString
        | c :: cs =>
          if c ≠ 'u' then .error .unpairedSurrogate
          else do
            let (low, cs) ← escapeNumber cs
            if low < 0xDC00 ∨ 0xDFFF < low then .error .loneSurrogate
            else .ok (Char.ofNat ((n - 0xD800) * 0x400 + (low - 0xDC00) + 0x10000), cs)

/-- A character of a string, or its end. -/
inductive Piece where
  | char (c : Char) (rest : List Char)
  | close (rest : List Char)
  deriving Repr

def piece (cs : List Char) : Except Fault Piece :=
  match cs with
  | [] => .error .endInString
  | c :: cs =>
    if c = '"' then .ok (.close cs)
    else if c = '\\' then
      match cs with
      | [] => .error .endInString
      | c :: cs =>
        if c = 'u' then do
          let (c, cs) ← unicodeEscape cs
          .ok (.char c cs)
        else match shortEscape? c with
          | some c => .ok (.char c cs)
          | none => .error .invalidEscape
    else if c.toNat < 32 then .error .controlCharacter
    else .ok (.char c cs)

/-- The pieces of a string up to its end, in front of which `taken` was read, last character first.
    `fuel` bounds their number. -/
def stringLoop : (fuel : Nat) → (taken : List Char) → List Char → Scan String
  | 0, _, _ => .error .endInString
  | fuel + 1, taken, cs =>
    match piece cs with
    | .error e => .error e
    | .ok (.close rest) => .ok (String.ofList taken.reverse, rest)
    | .ok (.char c rest) => stringLoop fuel (c :: taken) rest

def string (cs : List Char) : Scan String :=
  stringLoop (cs.length + 1) [] cs

/-- The rest of the text after a string, from behind its opening quote on.  The numbers in its escapes
    need not make up characters. -/
def skipStringLoop : (fuel : Nat) → List Char → Scan Unit
  | 0, _ => .error .endInString
  | _, [] => .error .endInString
  | fuel + 1, c :: cs =>
    if c = '"' then .ok ((), cs)
    else if c = '\\' then
      match cs with
      | [] => .error .endInString
      | c :: cs =>
        if c = 'u' then
          match escapeNumber cs with
          | .ok (_, cs) => skipStringLoop fuel cs
          | .error e => .error e
        else if (shortEscape? c).isSome then skipStringLoop fuel cs
        else .error .invalidEscape
    else if c.toNat < 32 then .error .controlCharacter
    else skipStringLoop fuel cs

/-- Passes over a string, after its opening quote. -/
def skipString (cs : List Char) : Scan Unit :=
  skipStringLoop (cs.length + 1) cs

/-! ## §3 Numbers -/

/-- A number: an integer of 64 bits, or a double. -/
inductive Number where
  | unsigned (value : Nat)
  | negative (magnitude : Nat)
  | real (minus : Bool) (size : Binary64)
  deriving DecidableEq, Repr

/-- What is met where a number stands. -/
def Number.found : Number → Found
  | .unsigned value => .unsigned value
  | .negative magnitude => .negative magnitude
  | .real minus size => .real minus size

/-- A decimal digit. -/
def isDigit (c : Char) : Bool :=
  isDigitOf 10 c

/-- The largest integer of 64 bits. -/
def maxUnsigned : Nat := UInt64.size - 1

/-- Takes digits into a significand as long as it stays within 64 bits; gives the significand, the
    number of digits taken, and the digits that were not. -/
def absorb : (significand taken : Nat) → List Char → Nat × Nat × List Char
  | significand, taken, [] => (significand, taken, [])
  | significand, taken, d :: ds =>
    let next := significand * 10 + (digitValue? 10 d).getD 0
    if next ≤ maxUnsigned then absorb next (taken + 1) ds else (significand, taken, d :: ds)

/-- `x` times or divided by a power of ten, in steps of at most `10 ^ 308`; nothing where it becomes
    infinite.  `fuel` bounds the steps. -/
def scaleByTen (x : Binary64) (exponent : Int) : (fuel : Nat) → Option Binary64
  | 0 => some x
  | fuel + 1 =>
    if exponent.natAbs ≤ 308 then
      let power := Binary64.ofNat (Nat.pow 10 exponent.natAbs)
      if 0 ≤ exponent then
        match x.mul power with
        | .infinite => none
        | y => some y
      else some (x.div power)
    else if x.isZero then some x
    else if 0 ≤ exponent then none
    else scaleByTen (x.div (Binary64.ofNat (Nat.pow 10 308))) (exponent + 308) fuel

/-- The double of a significand and a power of ten. -/
def realOf (minus : Bool) (significand : Nat) (exponent : Int) (rest : List Char) : Scan Number :=
  match scaleByTen (Binary64.ofNat significand) exponent (exponent.natAbs / 308 + 1) with
  | some size => .ok (.real minus size, rest)
  | none => .error .numberOutOfRange

/-- The largest exponent that is read. -/
def maxExponent : Nat := 2147483647

/-- The exponent of a number, behind its letter.  One that is too large makes the number zero, or out
    of range where the significand is not zero and the exponent not negative. -/
def exponentPart (minus : Bool) (significand : Nat) (start : Int) (cs : List Char) : Scan Number :=
  let (negative, cs) : Bool × List Char := match cs with
    | [] => (false, [])
    | c :: rest => if c = '+' then (false, rest) else if c = '-' then (true, rest) else (false, c :: rest)
  match cs with
  | [] => .error .endInValue
  | c :: _ =>
    if !isDigit c then .error .invalidNumber
    else
      let exponent := ofDigits 10 (cs.takeWhile isDigit)
      let rest := cs.dropWhile isDigit
      if maxExponent < exponent then
        if significand ≠ 0 ∧ !negative then .error .numberOutOfRange
        else .ok (.real minus .zero, rest)
      else realOf minus significand (if negative then start - exponent else start + exponent) rest

/-- What follows the digits of a number: an exponent, or nothing. -/
def realEnd (minus : Bool) (significand : Nat) (exponent : Int) (cs : List Char) : Scan Number :=
  match cs with
  | c :: rest =>
    if c = 'e' ∨ c = 'E' then exponentPart minus significand exponent rest
    else realOf minus significand exponent cs
  | [] => realOf minus significand exponent []

/-- The digits behind the point of a number; those that do not fit into the significand are left
    out. -/
def fractionPart (minus : Bool) (significand : Nat) (exponent : Int) (cs : List Char) : Scan Number :=
  let ds := cs.takeWhile isDigit
  let rest := cs.dropWhile isDigit
  match ds, rest with
  | [], [] => .error .endInValue
  | [], _ :: _ => .error .invalidNumber
  | _ :: _, _ =>
    let (significand, taken, _) := absorb significand 0 ds
    realEnd minus significand (exponent - taken) rest

/-- An integer as it is read: a negative one beyond 63 bits, and the negative zero, are doubles. -/
def Number.ofInteger (minus : Bool) (n : Nat) : Number :=
  if !minus then .unsigned n
  else if 1 ≤ n ∧ n ≤ 9223372036854775808 then .negative n
  else .real true (Binary64.ofNat n)

def number (minus : Bool) (cs : List Char) : Scan Number :=
  match cs with
  | [] => .error .endInValue
  | c :: tail =>
    if !isDigit c then .error .invalidNumber
    else if c = '0' ∧ (tail.head?.map isDigit).getD false then .error .invalidNumber
    else
      let (significand, _, dropped) := absorb 0 0 (cs.takeWhile isDigit)
      let rest := cs.dropWhile isDigit
      match rest with
      | '.' :: rest => fractionPart minus significand dropped.length rest
      | _ =>
        if rest.head? = some 'e' ∨ rest.head? = some 'E' ∨ !dropped.isEmpty then
          realEnd minus significand dropped.length rest
        else .ok (Number.ofInteger minus significand, rest)

/-! ## §4 Values Passed Over -/

/-- Passes over an exponent, behind its letter. -/
def skipExponent (cs : List Char) : Scan Unit :=
  let cs := match cs with
    | [] => []
    | c :: rest => if c = '+' ∨ c = '-' then rest else c :: rest
  match cs with
  | c :: _ => if isDigit c then .ok ((), cs.dropWhile isDigit) else .error .invalidNumber
  | [] => .error .invalidNumber

/-- Passes over what may follow the digits of a number. -/
def skipNumberEnd (cs : List Char) : Scan Unit :=
  match cs with
  | c :: rest => if c = 'e' ∨ c = 'E' then skipExponent rest else .ok ((), cs)
  | [] => .ok ((), [])

/-- Passes over a number, behind its sign, of whatever size. -/
def skipNumber (cs : List Char) : Scan Unit :=
  match cs with
  | [] => .error .invalidNumber
  | c :: tail =>
    if !isDigit c then .error .invalidNumber
    else if c = '0' ∧ (tail.head?.map isDigit).getD false then .error .invalidNumber
    else match cs.dropWhile isDigit with
      | '.' :: rest =>
        if rest.takeWhile isDigit = [] then .error .invalidNumber
        else skipNumberEnd (rest.dropWhile isDigit)
      | rest => skipNumberEnd rest

/-- The list or object around the place that a scan has reached. -/
inductive Frame where
  | list
  | object
  deriving DecidableEq, Repr

/-- The character that ends a list or an object. -/
def Frame.close : Frame → Char
  | .list => ']'
  | .object => '\x7d'

/-- The fault of a text that ends inside. -/
def Frame.early : Frame → Fault
  | .list => .endInList
  | .object => .endInObject

/-- The fault of a part that is followed by neither a comma nor the end. -/
def Frame.unseparated : Frame → Fault
  | .list => .listSeparatorExpected
  | .object => .objectSeparatorExpected

/-- What is due at the place that a scan has reached. -/
inductive Due where
  /-- A value. -/
  | value
  /-- A key, and a value after it. -/
  | key
  /-- The first part of the innermost list or object, or its end. -/
  | first
  /-- A comma, or the end of the innermost list or object. -/
  | separator
  deriving DecidableEq, Repr

/-- What a list or object wants between its separators. -/
def Frame.part : Frame → Due
  | .list => .value
  | .object => .key

/-- Passes over a value that is no list or object, or over the opening of one. -/
def skipStart (cs : List Char) : Scan (Option Frame) :=
  match skipBlanks cs with
  | [] => .error .endInValue
  | c :: rest =>
    if c = '[' then .ok (some .list, rest)
    else if c = '\x7b' then .ok (some .object, rest)
    else
      let scalar : Scan Unit :=
        if c = 'n' then word ['u', 'l', 'l'] rest
        else if c = 't' then word ['r', 'u', 'e'] rest
        else if c = 'f' then word ['a', 'l', 's', 'e'] rest
        else if c = '-' then skipNumber rest
        else if isDigit c then skipNumber (c :: rest)
        else if c = '"' then skipString rest
        else .error .valueExpected
      scalar.map fun (_, rest) => (none, rest)

/-- Passes over a key and the colon after it. -/
def skipKey (cs : List Char) : Scan Unit :=
  match skipBlanks cs with
  | [] => .error .endInObject
  | c :: rest =>
    if c = '"' then
      match skipString rest with
      | .error e => .error e
      | .ok (_, rest) =>
        match skipBlanks rest with
        | [] => .error .endInObject
        | c :: rest => if c = ':' then .ok ((), rest) else .error .colonExpected
    else .error .keyNotString

/-- Passes over the rest of a value, with the lists and objects around the place, innermost first, and
    what is due there.  `fuel` bounds the steps. -/
def skipLoop : (fuel : Nat) → Due → List Frame → List Char → Scan Unit
  | 0, _, _, _ => .error .endInValue
  | fuel + 1, .value, frames, cs =>
    match skipStart cs with
    | .error e => .error e
    | .ok (none, rest) => skipLoop fuel .separator frames rest
    | .ok (some frame, rest) => skipLoop fuel .first (frame :: frames) rest
  | fuel + 1, .key, frames, cs =>
    match skipKey cs with
    | .error e => .error e
    | .ok (_, rest) => skipLoop fuel .value frames rest
  | _ + 1, .first, [], cs => .ok ((), cs)
  | fuel + 1, .first, frame :: frames, cs =>
    match skipBlanks cs with
    | [] => .error frame.early
    | c :: rest =>
      if c = frame.close then skipLoop fuel .separator frames rest
      else skipLoop fuel frame.part (frame :: frames) (c :: rest)
  | _ + 1, .separator, [], cs => .ok ((), cs)
  | fuel + 1, .separator, frame :: frames, cs =>
    match skipBlanks cs with
    | [] => .error frame.early
    | c :: rest =>
      if c = ',' then skipLoop fuel frame.part (frame :: frames) rest
      else if c = frame.close then skipLoop fuel .separator frames rest
      else .error frame.unseparated

/-- Passes over a value.  Every step but the opening of a part takes a character, so twice their
    number bounds the steps. -/
def skipValue (cs : List Char) : Scan Unit :=
  skipLoop (2 * cs.length + 2) .value [] cs

end RoleDaemon.Json
