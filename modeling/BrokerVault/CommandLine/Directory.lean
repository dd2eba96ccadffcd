import BrokerVault.CommandLine.Commands

/-! Files and directories that are kept in memory. Paths are taken from the root or from the place
where one stands, name by name, as an operating system takes them. -/
namespace BrokerVault.CommandLine

structure Directory where
  files : NameMap Bytes
  directories : List String
  here : String

namespace Directory

def names (path : String) : List String :=
  ((Text.splitOn (· == '/') path.toList).filter (!·.isEmpty)).map String.ofList

def above (place : String) : String := (parentOf? place).getD "/"

def below (place name : String) : String :=
  if place = "/" then "/" ++ name else place ++ "/" ++ name

def isDirectory (directory : Directory) (place : String) : Bool :=
  place == "/" || directory.directories.contains place

def notADirectory : FileFault := .other "Not a directory (os error 20)"
def isADirectory : FileFault := .other "Is a directory (os error 21)"
def alreadyThere : FileFault := .other "File exists (os error 17)"

def start (directory : Directory) (path : String) : String :=
  if isAbsolute path then "/" else directory.here

def walk (directory : Directory) (place : String) : List String → Except FileFault String
  | [] => .ok place
  | name :: rest =>
    if name = "." then walk directory place rest
    else if name = ".." then walk directory (above place) rest
    else
      let next := below place name
      if rest.isEmpty ∨ directory.isDirectory next then walk directory next rest
      else if (directory.files.get? next).isSome then .error notADirectory
      else .error .missing

def locate (directory : Directory) (path : String) : Except FileFault String :=
  directory.walk (directory.start path) (names path)

def read (directory : Directory) (path : String) : Except FileFault Bytes := do
  let place ← directory.locate path
  if directory.isDirectory place then .error isADirectory
  else
    match directory.files.get? place with
    | some contents => .ok contents
    | none => .error .missing

def write (directory : Directory) (path : String) (contents : Bytes) :
    Except FileFault Directory := do
  let place ← directory.locate path
  if directory.isDirectory place then .error isADirectory
  else if directory.isDirectory (above place) then
    .ok { directory with files := directory.files.insert place contents }
  else .error .missing

def makeAlong (directory : Directory) (place : String) :
    List String → Except FileFault Directory
  | [] => .ok directory
  | name :: rest =>
    if name = "." then makeAlong directory place rest
    else if name = ".." then makeAlong directory (above place) rest
    else
      let next := below place name
      if (directory.files.get? next).isSome then
        .error (if rest.isEmpty then alreadyThere else notADirectory)
      else if directory.isDirectory next then makeAlong directory next rest
      else
        makeAlong { directory with directories := next :: directory.directories } next rest

def make (directory : Directory) (path : String) : Except FileFault Directory :=
  directory.makeAlong (directory.start path) (names path)

def list (directory : Directory) (place : String) : List String :=
  let inside := (directory.files.map (·.1) ++ directory.directories).filter (above · == place)
  (NameMap.ofList (inside.map fun path => ((names path).getLastD "", ()))).map (·.1)

end Directory

structure Trial where
  directory : Directory
  output : List String
  errors : List String
  input : String
  report : Report
  moments : Nat

namespace Trial

def start (directory : Directory) : Trial := ⟨directory, [], [], "", .empty, 0⟩

def again (trial : Trial) (input : String) : Trial :=
  { trial with output := [], errors := [], input := input, report := .empty }

def change (edit : Directory → Except FileFault Directory) :
    StateM Trial (Except FileFault Unit) := do
  let trial ← get
  match edit trial.directory with
  | .ok directory =>
    set { trial with directory := directory }
    return .ok ()
  | .error fault => return .error fault

def record (event : Report.Event) : StateM Trial Unit :=
  modify fun trial => { trial with
    output := trial.output ++ trial.report.lines event
    report := trial.report.after event }

def upgrader (client : Upgrade.Client) : Upgrade.Upgrader (StateM Trial) where
  toPlatform := client.platform .unreachable
  record := record
  report := return (← get).report
  upgradeEach _ tasks :=
    tasks.forM (Upgrade.carryOut record (pure 0) (client.upgrade .unreachable))

def momentsPerRun : Nat := 1000000

def surroundings (world : Surroundings) : StateM Trial Surroundings := do
  let first := (← get).moments
  modify fun trial => { trial with moments := first + momentsPerRun }
  return ⟨fun moment => world.random (first + moment), fun moment => world.clock (first + moment),
    fun moment => world.cancelled (first + moment)⟩

def host (world : Surroundings) (environment : Environment) (home : Option String) :
    Host (StateM Trial) where
  environment := environment
  variableFile := do
    let found := (← get).directory.read ".env"
    return found.toOption.bind Bytes.toText?
  home := home
  readFile path := return (← get).directory.read path
  writeFile path contents := change (·.write path contents)
  makeDirectories path := change (·.make path)
  surroundings := surroundings world
  print line := modify fun trial => { trial with output := trial.output ++ [line] }
  complain line := modify fun trial => { trial with errors := trial.errors ++ [line] }
  readLine := return (← get).input
  upgrader _ := upgrader

end Trial
end BrokerVault.CommandLine
