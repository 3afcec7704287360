import RoleDaemon.Config.Load
import RoleDaemon.Text.Digits

/-!
# Command Line Parameters

Every parameter of the command line has a long name and an environment variable, which is used when
the parameter is not given.  A switch is on or off; all others take a value, and one of them can be
given several times.

Main definitions:
- `Settings`: what the command line sets
- `Parameter`: a parameter, with what its value does to the settings
- `parameters`: all parameters
- `ValueFault`: why a value is refused
-/

namespace RoleDaemon.Cli

open Net Text

/-! ## §1 Values -/

/-- Why the value of a parameter is refused. -/
inductive ValueFault where
  /-- There is no value, or an empty one where that is none. -/
  | missing
  /-- The value cannot be read, for a reason if one is told. -/
  | invalid (value : String) (reason? : Option String)
  deriving DecidableEq, Repr

/-- Why a text spells no integer of 64 bits. -/
inductive IntegerFault where
  | empty
  | invalidDigit
  | tooLarge
  | tooSmall
  deriving DecidableEq, Repr

/-- The wording of a fault. -/
def IntegerFault.message : IntegerFault → String
  | empty => "cannot parse integer from empty string"
  | invalidDigit => "invalid digit found in string"
  | tooLarge => "number too large to fit in target type"
  | tooSmall => "number too small to fit in target type"

/-- Reads the digits of a number behind those that make up `n`.  A number beyond `bound` ends the
    reading, as a digit does that is none. -/
def readDigits (bound : Nat) (beyond : IntegerFault) (n : Nat) : List Char →
    Except IntegerFault Nat
  | [] => .ok n
  | c :: cs =>
    match digitValue? 10 c with
    | none => .error .invalidDigit
    | some d =>
      if bound < n * 10 + d then .error beyond else readDigits bound beyond (n * 10 + d) cs

/-- Reads an integer of 64 bits, perhaps behind a sign. -/
def readInteger : List Char → Except IntegerFault Int
  | [] => .error .empty
  | ['+'] => .error .invalidDigit
  | ['-'] => .error .invalidDigit
  | '+' :: cs => (readDigits 9223372036854775807 .tooLarge 0 cs).map Int.ofNat
  | '-' :: cs => (readDigits 9223372036854775808 .tooSmall 0 cs).map fun n => -(n : Int)
  | cs => (readDigits 9223372036854775807 .tooLarge 0 cs).map Int.ofNat

def integerText (n : Int) : String :=
  (if n < 0 then "-" else "") ++ decimalText n.natAbs

def readBounded (bound : Nat) (value : String) : Except ValueFault Nat :=
  match readInteger value.toList with
  | .error fault => .error (.invalid value (some fault.message))
  | .ok n =>
    if 0 ≤ n ∧ n ≤ bound then .ok n.toNat
    else
      .error (.invalid value (some (integerText n ++ " is not in 0..=" ++ decimalText bound)))

def readAddress (value : String) : Except ValueFault Address :=
  match Address.parse? value with
  | some address => .ok address
  | none => .error (.invalid value (some "invalid IP address syntax"))

/-- Reads a path, which is not empty. -/
def readPath (value : String) : Except ValueFault String :=
  if value = "" then .error .missing else .ok value

/-- Reads paths with colons between them. -/
def readPaths (value : String) : Except ValueFault (List String) :=
  ((pieces ':' value.toList).map String.ofList).mapM readPath

/-- Reads one of the two words for a switch. -/
def readSwitch (value : String) : Except ValueFault Bool :=
  if value = "" then .error .missing
  else if value = "true" then .ok true
  else if value = "false" then .ok false
  else .error (.invalid value none)

/-! ## §2 Parameters -/

/-- What the command line sets: the file, and the settings that win over it. -/
structure Settings where
  configFile? : Option String
  overrides : Overrides
  deriving DecidableEq, Repr

/-- The command line sets nothing. -/
def Settings.none : Settings := ⟨.none, .none⟩

/-- A parameter. -/
structure Parameter where
  /-- The name behind two hyphens. -/
  name : String
  /-- The environment variable. -/
  envName : String
  /-- The parameter is on or off, and takes no value on the command line. -/
  isSwitch : Bool
  /-- The parameter can be given several times. -/
  isList : Bool
  /-- Reads a value, and puts it into the settings. -/
  set : String → Settings → Except ValueFault Settings

namespace Parameter

/-- The name of the value: the name of the parameter in capital letters, with underscores. -/
def valueName (name : String) : String :=
  String.ofList (name.toList.map fun c =>
    if c = '-' then '_' else if 97 ≤ c.toNat ∧ c.toNat ≤ 122 then Char.ofNat (c.toNat - 32) else c)

def shown (parameter : Parameter) : String :=
  "--" ++ parameter.name ++
    (if parameter.isSwitch then "" else " <" ++ valueName parameter.name ++ ">")

/-- A parameter whose value is read and put into the overrides. -/
def single {α : Type} (name : String) (read : String → Except ValueFault α)
    (put : α → Overrides → Overrides) : Parameter where
  name
  envName := "RECORDSERVICE_" ++ valueName name
  isSwitch := false
  isList := false
  set value settings :=
    (read value).map fun a => { settings with overrides := put a settings.overrides }

def switch (name : String) (put : Bool → Overrides → Overrides) : Parameter :=
  { single name readSwitch put with isSwitch := true }

def port (name : String) (put : UInt16 → Overrides → Overrides) : Parameter :=
  single name (readBounded (UInt16.size - 1)) fun n => put n.toUInt16

end Parameter

/-- All parameters, in the order in which their variables are read. -/
def parameters : List Parameter := [
  { Parameter.single "config" readPath (fun _ o => o) with
    set := fun value settings =>
      (readPath value).map fun path => { settings with configFile? := some path } },
  .port "planner-port" fun n o => { o with plannerPort := some n },
  .port "worker-port" fun n o => { o with workerPort := some n },
  .single "hostname" .ok fun name o => { o with hostname := some name },
  .single "rpc-interface" readAddress fun a o => { o with rpcInterface := some a },
  .port "webserver-port" fun n o => { o with webserverPort := some n },
  .single "webserver-interface" readAddress fun a o => { o with webserverInterface := some a },
  .switch "disable-webserver" fun b o => { o with disableWebserver := b },
  .single "storage-conf-dir" readPath fun path o => { o with storageConfDir := some path },
  .switch "hbase" fun b o => { o with hbaseEnabled := b },
  .single "codegen-opt-level" (readBounded (UInt8.size - 1)) fun n o =>
    { o with codegenOptLevel := some n.toUInt8 },
  { Parameter.single "frontend-classpath" readPaths (fun paths o =>
      { o with frontendClasspath := some (o.frontendClasspath.getD [] ++ paths) }) with
    isList := true }]

end RoleDaemon.Cli
