import BrokerVault.CommandLine.Environment

/-! The command line: a command, options of its own, and options that may stand before or behind it.
Behind it they count more, and an option counts more than the environment variable of the same
meaning. A variable is checked wherever it could be used. -/
namespace BrokerVault.CommandLine

structure UpgradeArguments where
  broker : String
  batchSize : Nat
  api : String
  token : Option String
  skipValidation : Bool
  deriving DecidableEq, Repr

inductive Command where
  | rotate
  | status
  | check
  | upgradeAll (arguments : UpgradeArguments)
  deriving DecidableEq, Repr

structure Invocation where
  database : Option String
  config : Option String
  enabled : Option Bool
  passwords : Option String
  command : Command
  deriving DecidableEq, Repr

inductive Interruption where
  | misuse
  | help
  | version
  deriving DecidableEq, Repr

inductive Flag where
  | database
  | config
  | enabled
  | passwords
  | batchSize
  | api
  | token
  | skipValidation
  deriving DecidableEq, Repr

inductive Verb where
  | rotate
  | status
  | check
  | upgradeAll
  deriving DecidableEq, Repr

def verbs : List (String × Verb) :=
  [("rotate", .rotate), ("status", .status), ("check", .check), ("upgrade-all", .upgradeAll)]

def commonFlags : List (String × Flag) :=
  [("db", .database), ("config", .config), ("encryption-enabled", .enabled),
    ("encryption-passwords", .passwords)]

def upgradeFlags : List (String × Flag) :=
  [("batch-size", .batchSize), ("api", .api), ("token", .token),
    ("skip-ssl-validation", .skipValidation)]

def flagsAt : Option Verb → List (String × Flag)
  | some .upgradeAll => upgradeFlags ++ commonFlags
  | _ => commonFlags

def readBool? : String → Option Bool
  | "true" => some true
  | "false" => some false
  | _ => none

def readSize? (text : String) : Option Nat :=
  let digits :=
    match text.toList with
    | '+' :: rest => rest
    | digits => digits
  if digits.isEmpty ∨ !digits.all (fun c => '0' ≤ c && c ≤ '9') then none
  else
    let value := digits.foldl (fun value c => 10 * value + (c.toNat - 48)) 0
    if value < Nat.pow 2 64 then some value else none

def Flag.accepts (flag : Flag) (text : String) : Bool :=
  match flag with
  | .database | .config => !text.isEmpty
  | .enabled => (readBool? text).isSome
  | .batchSize => (readSize? text).isSome
  | .passwords | .api | .token => true
  | .skipValidation => false

structure Side where
  values : List (Flag × String)
  positional : List String
  deriving DecidableEq, Repr

def Side.empty : Side := ⟨[], []⟩

def Side.value? (side : Side) (flag : Flag) : Option String := side.values.lookup flag

def Side.set (side : Side) (flag : Flag) (value : String) : Except Interruption Side :=
  if (side.value? flag).isSome then .error .misuse
  else .ok { side with values := (flag, value) :: side.values }

def Side.give (side : Side) (flag : Flag) (value : String) : Except Interruption Side :=
  if flag.accepts value then side.set flag value else .error .misuse

def isOption (argument : String) : Bool :=
  match argument.toList with
  | '-' :: _ :: _ => true
  | _ => false

def splitLong (name : List Char) : String × Option String :=
  let value? :=
    match name.dropWhile (· != '=') with
    | _ :: value => some (String.ofList value)
    | [] => none
  (String.ofList (name.takeWhile (· != '=')), value?)

def asked (verb : Option Verb) (name : String) : Interruption :=
  if name = "help" then .help
  else if name = "version" ∧ verb.isNone then .version
  else .misuse

def askedShort (verb : Option Verb) : List Char → Interruption
  | 'h' :: _ => .help
  | 'V' :: _ => if verb.isNone then .version else .misuse
  | _ => .misuse

def readOption (verb : Option Verb) (side : Side) (argument : List Char) :
    Except Interruption (Side × Option Flag) :=
  match argument with
  | '-' :: '-' :: long =>
    let (name, value?) := splitLong long
    match (flagsAt verb).lookup name, value? with
    | none, none => .error (asked verb name)
    | none, some _ => .error .misuse
    | some .skipValidation, none => (side.set .skipValidation "").map fun side => (side, none)
    | some flag, some value => (side.give flag value).map fun side => (side, none)
    | some flag, none => if (side.value? flag).isSome then .error .misuse else .ok (side, some flag)
  | '-' :: short => .error (askedShort verb short)
  | _ => .error .misuse

-- Only one command has an argument of its own, and only one.
def takePositional (verb : Option Verb) (side : Side) (argument : String) :
    Except Interruption Side :=
  if verb = some .upgradeAll ∧ side.positional.isEmpty then
    .ok { side with positional := [argument] }
  else .error .misuse

def takeAll (verb : Option Verb) (side : Side) : List String → Except Interruption Side
  | [] => .ok side
  | argument :: rest => do
    let side ← takePositional verb side argument
    takeAll verb side rest

def readVerb (name : String) (rest : List String) : Except Interruption Verb :=
  match verbs.lookup name with
  | some verb => .ok verb
  | none =>
    let explained := rest.isEmpty || (rest.head?.any fun topic => (verbs.lookup topic).isSome)
    .error (if name = "help" ∧ explained then .help else .misuse)

def readSide (verb : Option Verb) : (waiting : Option Flag) → Side → List String →
    Except Interruption (Side × Option (Verb × List String))
  | none, side, [] => .ok (side, none)
  | some _, _, [] => .error .misuse
  | some flag, side, value :: rest =>
    if isOption value then .error .misuse
    else do
      let side ← side.give flag value
      readSide verb none side rest
  | none, side, argument :: rest =>
    if argument = "--" then (takeAll verb side rest).map fun side => (side, none)
    else if isOption argument then do
      let (side, waiting) ← readOption verb side argument.toList
      readSide verb waiting side rest
    else if verb.isNone then do
      let verb ← readVerb argument rest
      .ok (side, some (verb, rest))
    else do
      let side ← takePositional verb side argument
      readSide verb none side rest

def variableNames : List (Flag × String) :=
  [(.database, "DB_PATH"), (.enabled, "ENCRYPTION_ENABLED"),
    (.passwords, "ENCRYPTION_PASSWORDS"), (.api, "CF_API"), (.token, "CF_ACCESS_TOKEN")]

def defaultBatchSize : Nat := 10

structure Sources where
  environment : Environment
  outer : Side
  inner : Side

namespace Sources

def inEnvironment? (sources : Sources) (flag : Flag) : Option String := do
  let name ← variableNames.lookup flag
  sources.environment.get? name

def value? (sources : Sources) (flag : Flag) : Option String :=
  sources.inner.value? flag <|> sources.outer.value? flag <|> sources.inEnvironment? flag

/-- A variable goes unread only where the flag stands on both sides. -/
def acceptsVariable (sources : Sources) (flag : Flag) : Bool :=
  match sources.inEnvironment? flag with
  | none => true
  | some value =>
    flag.accepts value
      || ((sources.inner.value? flag).isSome && (sources.outer.value? flag).isSome)

def command? (sources : Sources) : Verb → Option Command
  | .rotate => some .rotate
  | .status => some .status
  | .check => some .check
  | .upgradeAll => do
    let broker ← sources.inner.positional.head?
    let api ← sources.value? .api
    let batchSize :=
      match sources.value? .batchSize with
      | some text => (readSize? text).getD defaultBatchSize
      | none => defaultBatchSize
    some (.upgradeAll
      ⟨broker, batchSize, api, sources.value? .token, (sources.value? .skipValidation).isSome⟩)

def invocation? (sources : Sources) (verb : Verb) : Option Invocation :=
  if (commonFlags.map (·.2)).all sources.acceptsVariable then do
    let command ← sources.command? verb
    some ⟨sources.value? .database, sources.value? .config,
      (sources.value? .enabled).bind readBool?, sources.value? .passwords, command⟩
  else none

end Sources

def Invocation.of? (environment : Environment) (arguments : List String) :
    Except Interruption Invocation := do
  match ← readSide none none .empty arguments with
  | (_, none) => .error .misuse
  | (outer, some (verb, behind)) =>
    let (inner, _) ← readSide (some verb) none .empty behind
    match Sources.invocation? ⟨environment, outer, inner⟩ verb with
    | some invocation => .ok invocation
    | none => .error .misuse

end BrokerVault.CommandLine
