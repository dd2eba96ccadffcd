import BrokerVault.CommandLine.Arguments
import BrokerVault.CommandLine.Failure
import BrokerVault.Database.Document
import BrokerVault.Upgrade.Client

/-! The commands, whatever they run on: a host has files, a terminal, the environment and the way to
the platform. Settings are read before the database is opened, and the database is there afterwards
whether the command succeeds or not. -/
namespace BrokerVault.CommandLine

structure Host (m : Type → Type) where
  environment : Environment
  variableFile : m (Option String)
  home : Option String
  readFile : (path : String) → m (Except FileFault Bytes)
  writeFile : (path : String) → Bytes → m (Except FileFault Unit)
  makeDirectories : (path : String) → m (Except FileFault Unit)
  surroundings : m Surroundings
  print : (text : String) → m Unit
  complain : (text : String) → m Unit
  readLine : m String
  upgrader : (skipValidation : Bool) → Upgrade.Client → Upgrade.Upgrader m

def programName : String := "brokerseal"
def programVersion : String := "0.1.0"

def usage : List String :=
  ["Usage: " ++ programName ++ " [OPTIONS] <COMMAND>", "", "Commands:", "  rotate", "  status",
    "  check", "  upgrade-all <BROKER> --api <URL> [--batch-size <N>] [--token <TOKEN>]"
      ++ " [--skip-ssl-validation]", "", "Options:", "  --db <PATH>", "  --config <PATH>",
    "  --encryption-enabled <BOOL>", "  --encryption-passwords <JSON>", "  -h, --help",
    "  -V, --version"]

def parentOf? (path : String) : Option String :=
  let isSlash (c : Char) : Bool := c == '/'
  let name := Text.dropEndWhile isSlash path.toList
  let above := Text.dropEndWhile (!isSlash ·) name
  if above.isEmpty then none
  else
    let parent := Text.dropEndWhile isSlash above
    some (if parent.isEmpty then "/" else String.ofList parent)

def isAbsolute (path : String) : Bool := path.toList.head? == some '/'

def defaultDatabase? (environment : Environment) (home : Option String) : Option String :=
  let fromHome (home : String) : String := home ++ "/.local/share"
  let given := (environment.get? "XDG_DATA_HOME").filter isAbsolute
  let home := ((environment.get? "HOME").filter (!·.isEmpty)) <|> home
  (given <|> home.map fromHome).map fun place =>
    place ++ "/" ++ programName ++ "/" ++ programName ++ ".db"

section

variable {m : Type → Type} [Monad m]

abbrev Attempt (m : Type → Type) := ExceptT Causes m

def attempt {ε α : Type} (causes : ε → Causes) (result : Except ε α) : Attempt m α :=
  ExceptT.mk (pure (result.mapError causes))

def printLines (host : Host m) (lines : List String) : Attempt m Unit :=
  lines.forM fun line => ExceptT.lift (host.print line)

def loadSettings (host : Host m) (invocation : Invocation) : Attempt m Settings := do
  let file : Option ConfigFile ←
    match invocation.config with
    | some path => do
      let contents ← ExceptT.lift (host.readFile path)
      attempt ConfigError.causes ((ConfigFile.ofContents? path contents).map some)
    | none => pure none
  attempt ConfigError.causes (Settings.resolve invocation.enabled invocation.passwords file)

structure EngineFault where
  code : Nat
  detail : String

def EngineFault.cannotOpen : EngineFault := ⟨14, "unable to open database file"⟩
def EngineFault.notADatabase : EngineFault := ⟨26, "file is not a database"⟩

def EngineFault.causes (fault : EngineFault) : Causes :=
  let bare := s!"(code: {fault.code}) " ++ fault.detail
  let returned := "error returned from database: " ++ bare
  ["database error: " ++ returned, returned, bare]

def openContext (path : String) : String := "error opening database " ++ path

def makeParent (host : Host m) (path : String) : Attempt m Unit :=
  match parentOf? path with
  | none => pure ()
  | some parent => do
    let made ← ExceptT.lift (host.makeDirectories parent)
    let causes (fault : FileFault) : Causes :=
      [openContext path, "cannot create database directory: " ++ fault.message, fault.message]
    attempt causes made

def storeDatabase (host : Host m) (path : String) (database : Database) : Attempt m Unit := do
  let stored ← ExceptT.lift (host.writeFile path database.toBytes)
  attempt (fun _ => openContext path :: EngineFault.cannotOpen.causes) stored

def openDatabase (host : Host m) (path : String) : Attempt m Database := do
  makeParent host path
  let refused (fault : EngineFault) : Attempt m Database :=
    throw (openContext path :: fault.causes)
  let database ←
    match ← ExceptT.lift (host.readFile path) with
    | .error .missing => pure .empty
    | .error _ => refused .cannotOpen
    | .ok contents =>
      match Database.ofBytes? contents with
      | some database => pure database.opened
      | none => refused .notADatabase
  storeDatabase host path database
  return database

def databasePath (host : Host m) (environment : Environment) (invocation : Invocation) :
    Attempt m String :=
  match invocation.database <|> defaultDatabase? environment host.home with
  | some path => pure path
  | none => throw ["could not determine platform directories"]

def onDatabase {ε α : Type} (host : Host m) (path : String) (causes : ε → Causes)
    (action : Action ε α) : Attempt m α := do
  let database ← openDatabase host path
  let world ← ExceptT.lift host.surroundings
  let (result, vault) := action world (.ofDatabase database)
  storeDatabase host path vault.database
  attempt causes result

def rotationLines (setup : Setup) : List String :=
  let plan := setup.reconciliation
  let configured := Password.nameOfLabel plan.configuredPrimary
  let change :=
    match setup.rotated with
    | some rows =>
      s!"rotated {rows} rows from " ++ Password.nameOfLabel plan.storedPrimary ++ " to "
        ++ configured
    | none => "encryption unchanged"
  [change] ++ setup.deleted.map (fun label => "removed stale password '" ++ label ++ "'")
    ++ (if setup.unreadable.isEmpty then []
      else [s!"{setup.unreadable.length} fields cannot be read"])
    ++ ["primary password: " ++ configured]

def rotate (host : Host m) (path : Attempt m String) (invocation : Invocation) :
    Attempt m Unit := do
  let settings ← loadSettings host invocation
  let setup ← onDatabase host (← path) SetupError.causes (Setup.run .standard settings)
  printLines host (rotationLines setup)

def statusCells (row : Row Credential) : List String :=
  [row.id, if row.value.primary then "yes" else "no", row.value.created.tableText,
    row.value.updated.tableText]

-- Every column is as wide as its longest cell, measured in bytes.
def columnWidths (header : List String) (rows : List (List String)) : List Nat :=
  rows.foldl
    (fun widths row => List.zipWith max widths (row.map String.utf8ByteSize))
    (header.map String.utf8ByteSize)

def tableLine (fill : Char) (widths : List Nat) (cells : List String) : String :=
  String.intercalate "  " (List.zipWith (Text.padEnd fill) widths cells)

def statusLines (rows : List (Row Credential)) : List String :=
  if rows.isEmpty then ["No password metadata stored."]
  else
    let header := ["Label", "Primary", "Created", "Updated"]
    let cells := rows.map statusCells
    let widths := columnWidths header cells
    tableLine ' ' widths header :: tableLine '-' widths ["", "", "", ""]
      :: cells.map (tableLine ' ' widths)

def status (host : Host m) (path : Attempt m String) : Attempt m Unit := do
  let rows ← onDatabase host (← path) StoreError.causes Credentials.load
  printLines host (statusLines rows)

def check (host : Host m) (path : Attempt m String) (invocation : Invocation) :
    Attempt m Unit := do
  let settings ← loadSettings host invocation
  let failures ← onDatabase host (← path) Check.Error.causes (Check.run .standard settings)
  if failures.isEmpty then printLines host ["all fields readable"]
  else
    failures.forM fun failure => ExceptT.lift (host.complain failure.message)
    throw [s!"{failures.length} fields cannot be read"]

def readToken (host : Host m) (given : Option String) : Attempt m String :=
  match (given.map Text.trim).filter (!·.isEmpty) with
  | some token => pure token
  | none => do
    let token := Text.trimEnd (← ExceptT.lift host.readLine)
    if token.isEmpty then throw ["no access token provided; set CF_ACCESS_TOKEN or pass --token"]
    else pure token

def upgradeAll (host : Host m) (arguments : UpgradeArguments) : Attempt m Unit := do
  let valid (result : Except UpgradeError Unit) : Attempt m Unit :=
    attempt (fun error => [error.message]) result
  valid (Upgrade.checkBroker arguments.broker)
  valid (Upgrade.checkBatchSize arguments.batchSize)
  valid (Upgrade.checkApiUrl arguments.api)
  let token ← readToken host arguments.token
  valid (Upgrade.checkToken token)
  let client := Upgrade.Client.ofAddress arguments.api token .standard
  let upgrader := host.upgrader arguments.skipValidation client
  let result ← ExceptT.lift (Upgrade.upgradeAll upgrader arguments.broker arguments.batchSize)
  let causes (error : UpgradeError) : Causes := ["upgrade-all failed", error.message]
  let _ ← attempt causes result

def execute (host : Host m) (environment : Environment) (invocation : Invocation) :
    Attempt m Unit :=
  let path := databasePath host environment invocation
  match invocation.command with
  | .rotate => rotate host path invocation
  | .status => status host path
  | .check => check host path invocation
  | .upgradeAll arguments => upgradeAll host arguments

def run (host : Host m) (arguments : List String) : m Nat := do
  let environment :=
    match ← host.variableFile with
    | some contents => host.environment.withFile contents
    | none => host.environment
  match Invocation.of? environment arguments with
  | .error .version => do
    host.print (programName ++ " " ++ programVersion)
    return 0
  | .error .help => do
    usage.forM host.print
    return 0
  | .error .misuse => do
    usage.forM host.complain
    return 2
  | .ok invocation => do
    match ← (execute host environment invocation).run with
    | .ok () => return 0
    | .error causes => do
      causes.report.forM host.complain
      return 1

end

end BrokerVault.CommandLine
