import RoleDaemon.Cli.Parameter

/-!
# Command Line Arguments

The arguments are read from left to right.  A parameter takes its value from behind an equals sign or
from the next argument, unless that starts with a hyphen; a value from the next argument is looked at
only when the next parameter comes up, or the end.  Behind two hyphens, and anywhere else, no further
arguments are taken.  Then the variables of the parameters that were not given are read.

Main definitions:
- `UsageFault`: what is wrong with a command line, and its wording
- `Reading`: what was read so far
- `readArguments`: the settings, or the wish for help, that a command line gives
-/

namespace RoleDaemon.Cli

/-! ## §1 Faults -/

/-- What is wrong with a command line. -/
inductive UsageFault where
  | unexpectedArgument (argument : String)
  | missingValue (parameter : String)
  | invalidValue (value parameter : String) (reason? : Option String)
  | unneededValue (value parameter : String)
  | repeated (parameter : String)
  deriving DecidableEq, Repr

/-- The wording of a fault. -/
def UsageFault.message : UsageFault → String
  | unexpectedArgument argument => "unexpected argument '" ++ argument ++ "' found"
  | missingValue parameter =>
    "a value is required for '" ++ parameter ++ "' but none was supplied"
  | invalidValue value parameter reason? =>
    "invalid value '" ++ value ++ "' for '" ++ parameter ++ "'" ++
      (match reason? with
        | some reason => ": " ++ reason
        | none => "")
  | unneededValue value parameter =>
    "unexpected value '" ++ value ++ "' for '" ++ parameter ++ "' found; no more were expected"
  | repeated parameter => "the argument '" ++ parameter ++ "' cannot be used multiple times"

/-- Why a command line gives no settings. -/
inductive Stop where
  /-- Help is asked for. -/
  | help
  /-- The command line is faulty. -/
  | fault (fault : UsageFault)
  deriving DecidableEq, Repr

/-! ## §2 Values -/

/-- What was read so far: the settings, the parameters that were given, and the parameter whose value
    is still open, perhaps with the value. -/
structure Reading where
  settings : Settings
  given : List String
  pending? : Option (Parameter × Option String)

namespace Reading

/-- Nothing was read. -/
def start : Reading := ⟨.none, [], none⟩

/-- Puts the value of a parameter into the settings. -/
def put (reading : Reading) (parameter : Parameter) (value : String) : Except Stop Reading :=
  match parameter.set value reading.settings with
  | .ok settings => .ok { reading with settings }
  | .error .missing => .error (.fault (.missingValue parameter.shown))
  | .error (.invalid value reason?) =>
    .error (.fault (.invalidValue value parameter.shown reason?))

/-- A parameter is given with a value, which only a list takes a second time. -/
def give (reading : Reading) (parameter : Parameter) (value : String) : Except Stop Reading :=
  if !parameter.isList && reading.given.contains parameter.name then
    .error (.fault (.repeated parameter.shown))
  else { reading with given := parameter.name :: reading.given }.put parameter value

/-- The open parameter is given with its value. -/
def close (reading : Reading) : Except Stop Reading :=
  match reading.pending? with
  | none => .ok reading
  | some (parameter, some value) => { reading with pending? := none }.give parameter value
  | some (parameter, none) => .error (.fault (.missingValue parameter.shown))

/-! ## §3 Arguments -/

/-- Help is asked for; a fault in what is open comes first. -/
def askHelp (reading : Reading) : Except Stop Reading :=
  reading.close.bind fun _ => .error .help

/-- An argument behind two hyphens, with its value behind an equals sign if it has one. -/
def long (reading : Reading) (name : String) (value? : Option String) : Except Stop Reading :=
  match parameters.find? (·.name = name) with
  | none =>
    if name = "help" then
      match value? with
      | some value => .error (.fault (.unneededValue value "--help"))
      | none => reading.askHelp
    else .error (.fault (.unexpectedArgument ("--" ++ name)))
  | some parameter =>
    if parameter.isSwitch then
      match value? with
      | some value => .error (.fault (.unneededValue value parameter.shown))
      | none => reading.close.bind fun closed => closed.give parameter "true"
    else
      reading.close.bind fun closed =>
        match value? with
        | some value => closed.give parameter value
        | none => .ok { closed with pending? := some (parameter, none) }

/-- An argument that is no parameter: the value that an open parameter waits for. -/
def plain (reading : Reading) (argument : String) : Except Stop Reading :=
  match reading.pending? with
  | some (parameter, none) => .ok { reading with pending? := some (parameter, some argument) }
  | _ => .error (.fault (.unexpectedArgument argument))

def argument (reading : Reading) (argument : String) : Except Stop Reading :=
  match argument.toList with
  | '-' :: '-' :: rest =>
    let name := String.ofList (rest.takeWhile (· != '='))
    match rest.dropWhile (· != '=') with
    | _ :: value => reading.long name (some (String.ofList value))
    | [] => reading.long name none
  | '-' :: c :: _ =>
    if c = 'h' then reading.askHelp
    else .error (.fault (.unexpectedArgument (String.ofList ['-', c])))
  | _ => reading.plain argument

/-- All arguments up to the end or to two hyphens, behind which none is taken. -/
def arguments (reading : Reading) : List String → Except Stop Reading
  | [] => reading.close
  | "--" :: rest =>
    match rest with
    | [] => reading.close
    | argument :: _ => .error (.fault (.unexpectedArgument argument))
  | argument :: rest => (reading.argument argument).bind fun reading => reading.arguments rest

/-- The variable of a parameter that was not given. -/
def fromVariable (vars : Variables) (reading : Reading) (parameter : Parameter) :
    Except Stop Reading :=
  if reading.given.contains parameter.name then .ok reading
  else
    match vars.get? parameter.envName with
    | some value => reading.put parameter value
    | none => .ok reading

end Reading

/-- The settings that a command line and the environment variables give. -/
def readArguments (arguments : List String) (vars : Variables) : Except Stop Settings :=
  (Reading.start.arguments arguments).bind fun reading =>
    (parameters.foldlM (Reading.fromVariable vars) reading).map (·.settings)

end RoleDaemon.Cli
