import BrokerVault.Cipher.Seed
import BrokerVault.CommandLine.Commands
import BrokerVault.CommandLine.Network
import Std.Internal.UV.System
import Std.Sync.Mutex

/-! The machine that the commands run on: its files and environment, its terminal, clock and random
bytes, and as many threads as upgrades may run at once. -/
namespace BrokerVault.CommandLine.Machine

def coded (detail : String) (code : UInt32) : FileFault := .other s!"{detail} (os error {code})"

def faultOf : IO.Error → FileFault
  | .noFileOrDirectory _ _ _ => .missing
  | .permissionDenied _ code detail | .resourceExhausted _ code detail
  | .inappropriateType _ code detail | .alreadyExists _ code detail
  | .invalidArgument _ code detail | .noSuchThing _ code detail
  | .resourceBusy code detail | .otherError code detail => coded detail code
  | error => .other (toString error)

def attempted {α : Type} (action : IO α) : IO (Except FileFault α) := do
  try return .ok (← action) catch error => return .error (faultOf error)

def readFile (path : String) : IO (Except FileFault Bytes) :=
  attempted do return (← IO.FS.readBinFile path).toList

-- The file has either its old or its new contents at any time.
def writeFile (path : String) (contents : Bytes) : IO (Except FileFault Unit) := attempted do
  let draft := path ++ ".new"
  IO.FS.writeBinFile draft ⟨contents.toArray⟩
  IO.FS.rename draft path

def nearestFile (directory : String) : (fuel : Nat) → IO (Option String)
  | 0 => return none
  | fuel + 1 => do
    match ← readFile (directory ++ "/.env") with
    | .ok contents => return contents.toText?
    | .error _ =>
      match parentOf? directory with
      | some above => nearestFile above fuel
      | none => return none

def variableFile : IO (Option String) := do
  let directory := (← IO.currentDir).toString
  nearestFile directory directory.length

def now : IO Timestamp := do
  let now ← Std.Time.Timestamp.now
  let nanoseconds := now.toNanosecondsSinceUnixEpoch.toInt.toNat
  return ⟨nanoseconds / Elapsed.second, nanoseconds % Elapsed.second⟩

def later (start : Timestamp) (microseconds : Nat) : Timestamp :=
  let nanoseconds := start.nanoseconds + 1000 * microseconds
  ⟨start.seconds + nanoseconds / Elapsed.second, nanoseconds % Elapsed.second⟩

def surroundings : IO Surroundings := do
  let start ← now
  let seed ← (some <$> IO.getRandomBytes 32) <|> pure none
  let random (moment length : Nat) : Option (BytesOf length) :=
    seed.map fun seed => Seed.draw seed.toList moment length
  return ⟨random, later start, fun _ => false⟩

def record (report : Std.Mutex Report) (event : Report.Event) : IO Unit := report.atomically do
  let before ← get
  let stamp ← now
  for line in before.lines event do
    IO.println (stamp.stampText ++ ": " ++ line)
  set (before.after event)

def take (waiting : Std.Mutex (List Upgrade.Task)) : IO (Option Upgrade.Task) :=
  waiting.atomically do
    match ← get with
    | [] => return none
    | task :: rest => do
      set rest
      return some task

def progressPeriod : Nat := 60 * Elapsed.second

partial def keepReporting (report : Std.Mutex Report) (next : Nat) : IO Unit := do
  if ← IO.checkCanceled then return
  if next ≤ (← IO.monoNanosNow) then
    record report .progress
    keepReporting report (next + progressPeriod)
  else
    IO.sleep 20
    keepReporting report next

def upgradeEach (report : Std.Mutex Report) (upgrade : Upgrade.Task → IO Unit) (batchSize : Nat)
    (tasks : List Upgrade.Task) : IO Unit := do
  let waiting ← Std.Mutex.new tasks
  let work : IO Unit := tasks.forM fun _ => do
    match ← take waiting with
    | some task => upgrade task
    | none => return
  let workers ← (List.range (min batchSize tasks.length)).mapM fun _ => IO.asTask work .dedicated
  let reporter ← IO.asTask (keepReporting report ((← IO.monoNanosNow) + progressPeriod)) .dedicated
  workers.forM fun worker => discard (IO.wait worker)
  IO.cancel reporter
  discard (IO.wait reporter)

def upgrader (report : Std.Mutex Report) (client : Upgrade.Client) : Upgrade.Upgrader IO where
  toPlatform := client.platform Network.transport
  record := record report
  report := report.atomically get
  upgradeEach := upgradeEach report <|
    Upgrade.carryOut (record report) IO.monoNanosNow (client.upgrade Network.transport)

def firstLine : IO String := do
  let input ← IO.getStdin
  input.getLine <|> pure ""

def host : IO (Host IO) := do
  let environment ← Std.Internal.UV.System.osEnviron <|> pure #[]
  let report ← Std.Mutex.new Report.empty
  return {
    environment := environment.toList
    variableFile := variableFile
    home := none
    readFile := readFile
    writeFile := writeFile
    makeDirectories := fun path => attempted (IO.FS.createDirAll path)
    surroundings := surroundings
    print := fun line => IO.println line
    complain := fun line => IO.eprintln line
    readLine := firstLine
    upgrader := fun _ => upgrader report }

end BrokerVault.CommandLine.Machine
