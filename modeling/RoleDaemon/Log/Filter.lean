import RoleDaemon.Log.Event
import RoleDaemon.Text.Blank
import RoleDaemon.Text.Digits

/-!
# Log Filters

A filter is a list of directives.  A directive lets events pass up to a level, those of all targets,
or those whose target starts with the directive's.  Among the directives that speak of a target the
one with the longest text decides, and among equal ones the last.

Main definitions:
- `Filter`: the directives
- `Filter.passes`: whether an event is logged
- `Filter.parse?`: reads the directives from a text
- `Filter.standard`: the filter where none is given
-/

namespace RoleDaemon.Log

open Text

/-! ## §1 Directives -/

/-- A directive: the start of a target, where it speaks of some targets only, and the last level that
    passes; no level lets nothing pass. -/
structure Directive where
  target? : Option String
  level? : Option Level
  deriving DecidableEq, Repr

namespace Directive

/-- The directive speaks of the target. -/
def speaksOf (directive : Directive) (target : String) : Bool :=
  match directive.target? with
  | some start => start.toList.isPrefixOf target.toList
  | none => true

/-- The weight of a directive, which grows with the text of its target. -/
def weight (directive : Directive) : Nat :=
  match directive.target? with
  | some start => start.utf8ByteSize + 1
  | none => 0

/-- Events of the level pass. -/
def allows (directive : Directive) (level : Level) : Bool :=
  match directive.level? with
  | some last => level.rank ≤ last.rank
  | none => false

end Directive

/-- The directives in the order in which they are given. -/
structure Filter where
  directives : List Directive
  deriving DecidableEq, Repr

namespace Filter

/-- The directive that decides about a target. -/
def decisive? (filter : Filter) (target : String) : Option Directive :=
  (filter.directives.filter (·.speaksOf target)).foldl
    (fun best? directive =>
      match best? with
      | some best => if best.weight ≤ directive.weight then some directive else some best
      | none => some directive)
    none

/-- The event is logged. -/
def passes (filter : Filter) (event : Event) : Bool :=
  match filter.decisive? event.component.target with
  | some directive => directive.allows event.level
  | none => false

/-! ## §2 Reading -/

/-- The names of the levels in small letters, with the level that each stands for; the empty name
    stands for errors. -/
def levelNames : List (String × Option Level) := [
  ("", some .error), ("off", none), ("error", some .error), ("warn", some .warn),
  ("info", some .info), ("debug", some .debug), ("trace", some .trace)]

/-- The levels by number, from no level on. -/
def levelsByNumber : List (Option Level) :=
  [none, some .error, some .warn, some .info, some .debug, some .trace]

/-- The number that decimal digits spell, perhaps behind a plus sign. -/
def number? (cs : List Char) : Option Nat :=
  let digits := (after? '+' cs).getD cs
  if !digits.isEmpty && digits.all (isDigitOf 10) then some (ofDigits 10 digits) else none

/-- A capital letter of ASCII as a small one. -/
def lower (c : Char) : Char :=
  if 65 ≤ c.toNat ∧ c.toNat ≤ 90 then Char.ofNat (c.toNat + 32) else c

/-- The level that a text names, by its number or by its name in letters of either size. -/
def level? (cs : List Char) : Option (Option Level) :=
  match (number? cs).bind (levelsByNumber[·]?) with
  | some level => some level
  | none => levelNames.lookup (String.ofList (cs.map lower))

/-- A directive can start with the character: a letter, a digit, or one of three signs.  Characters
    outside of ASCII count as letters. -/
def canStart (c : Char) : Bool :=
  c = '-' || c = ':' || c = '_' || 127 < c.toNat || c.isAlphanum

/-- What a directive in brackets is followed by: nothing, or a level. -/
def isSpanEnd : List Char → Bool
  | [] => true
  | '=' :: cs => cs.isEmpty || (level? cs).isSome
  | _ => false

/-- The text inside the brackets of a directive is well formed up to the closing one, and so is what
    follows. -/
def isSpan (cs : List Char) : Bool :=
  match cs.dropWhile fun c => c != ']' && c != '\x7b' with
  | ']' :: rest => isSpanEnd rest
  | '\x7b' :: rest =>
    let fields := rest.takeWhile (· != '\x7d')
    match rest.dropWhile (· != '\x7d') with
    | '\x7d' :: ']' :: rest => !fields.isEmpty && isSpanEnd rest
    | _ => false
  | _ => false

/-- What a part of a filter says: a directive, or nothing where it speaks of what goes on inside
    spans, of which the daemon has none.  The place of the first sign is found without the blanks
    around the part. -/
def part? (cs : List Char) : Option (Option Directive) :=
  let body := trimChars cs
  match body with
  | [] => none
  | '[' :: rest => if isSpan rest then some none else none
  | c :: _ =>
    if !canStart c then none
    else
      let target := body.takeWhile fun c => c != '=' && c != '['
      let level := cs.drop (target.length + 1)
      match body.drop target.length with
      | '=' :: _ =>
        if level.isEmpty then some (some ⟨some (String.ofList (cs.take target.length)), some .trace⟩)
        else (level? level).map fun level =>
          some ⟨some (String.ofList (cs.take target.length)), level⟩
      | '[' :: rest => if isSpan rest then some none else none
      | _ =>
        match level? cs with
        | some level => some (some ⟨none, level⟩)
        | none => some (some ⟨some (String.ofList cs), some .trace⟩)

/-- The filter that a text spells: directives with commas between them.  Without any part, errors
    pass. -/
def parse? (s : String) : Option Filter :=
  match (pieces ',' s.toList).filter (!·.isEmpty) with
  | [] => some ⟨[⟨none, some .error⟩]⟩
  | parts => (parts.mapM part?).map fun directives => ⟨directives.filterMap id⟩

/-- The filter where none is given: the daemon's own events down to the informative ones. -/
def standard : Filter :=
  ⟨[⟨some Component.process.target, some .info⟩, ⟨none, some .warn⟩]⟩

/-- The filter that a variable gives, where it is set and can be read. -/
def ofVariable (value? : Option String) : Filter :=
  (value?.bind parse?).getD standard

end Filter

end RoleDaemon.Log
