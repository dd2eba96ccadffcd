import BrokerVault.Upgrade.Bulk
import BrokerVault.Upgrade.Pool

/-! A bulk upgrade on a platform whose answers are known beforehand. The workers of the pool go about
their tasks in an order that a schedule chooses: it may ask for any step that is possible, and let
any time pass before. Times are in nanoseconds, and a progress period of zero is none at all. -/
namespace BrokerVault.Upgrade

inductive Ending where
  | succeeds
  | fails (error : UpgradeError)
  | panics
  deriving DecidableEq, Repr

structure Course where
  delay : Nat
  ending : Ending
  deriving DecidableEq, Repr

structure Scenario where
  apiVersion : Except UpgradeError String
  plans : Except UpgradeError (List Plan)
  instances : Except UpgradeError (List ServiceInstance)
  course : (number : Nat) → Task → Course
  progressPeriod : Nat

inductive Request where
  | apiVersion
  | plans (broker : String)
  | instances (plans : List String)
  | upgrade (guid version : String)
  deriving DecidableEq, Repr

def Request.task? : Request → Option Task
  | .upgrade guid version => some ⟨guid, version⟩
  | .apiVersion | .plans _ | .instances _ => none

structure Chronicle where
  now : Nat
  requests : List Request
  lines : List String
  report : Report
  outcomes : List (Task × Ending)
  peak : Nat

namespace Chronicle

def start : Chronicle := ⟨0, [], [], .empty, [], 0⟩

def upgrades (chronicle : Chronicle) : List Task := chronicle.requests.filterMap Request.task?

def record (event : Report.Event) (chronicle : Chronicle) : Chronicle :=
  { chronicle with
    lines := chronicle.lines ++ chronicle.report.lines event
    report := chronicle.report.after event }

def ask (request : Request) (chronicle : Chronicle) : Chronicle :=
  { chronicle with requests := chronicle.requests ++ [request] }

def periodsBefore (period time : Nat) : Nat := (time - 1) / period

def waitUntil (period time : Nat) (chronicle : Chronicle) : Chronicle :=
  let due := periodsBefore period time - periodsBefore period chronicle.now
  { (List.range due).foldl (fun (before : Chronicle) _ => before.record .progress) chronicle with
    now := max time chronicle.now }

def conclude (task : Task) (ending : Ending) (after : Elapsed) (chronicle : Chronicle) :
    Chronicle :=
  let told :=
    match ending with
    | .succeeds => chronicle.record (.succeeded task.guid after)
    | .fails error => chronicle.record (.failed task.guid after error.message)
    | .panics => chronicle
  { told with outcomes := told.outcomes ++ [(task, ending)] }

end Chronicle

structure Call where
  since : Nat
  due : Nat
  ending : Ending
  deriving DecidableEq, Repr

def Call.event (call : Call) (place : Nat) : Pool.Event :=
  if call.ending = .panics then .panic place else .finish place

structure Job where
  task : Task
  call : Option Call
  deriving DecidableEq, Repr

def Job.waiting? (job : Job) : Option Task := if job.call.isNone then some job.task else none

def earliest? : List Job → Option (Nat × Call)
  | [] => none
  | job :: rest =>
    let later := (earliest? rest).map fun (place, call) => (place + 1, call)
    match job.call, later with
    | some call, some (place, other) =>
      if other.due < call.due then some (place, other) else some (0, call)
    | some call, none => some (0, call)
    | none, later => later

inductive Turn where
  | pool (event : Pool.Event)
  | call (place : Nat)
  deriving DecidableEq, Repr

/-- The workers at work. The jobs are those in flight, in the same order. -/
structure Shift where
  pool : Pool Task
  jobs : List Job
  chronicle : Chronicle

/-- Asks for the turns it would like best, and says how long after its time a turn comes. -/
structure Schedule where
  wishes : Shift → List Turn
  late : Shift → Turn → Nat

namespace Shift

def begin (size : Nat) (tasks : List Task) (chronicle : Chronicle) : Shift :=
  ⟨.start size tasks, [], chronicle⟩

def call? (shift : Shift) (place : Nat) : Option Call := shift.jobs[place]?.bind (·.call)

def allows (shift : Shift) : Pool.Event → Bool
  | .finish place => (shift.call? place).any (·.ending ≠ .panics)
  | .panic place => (shift.call? place).any (·.ending = .panics)
  | .send | .hold | .receive | .close | .retire | .leave | .abandon => true

def ready (shift : Shift) : Turn → Nat
  | .pool (.finish place) | .pool (.panic place) =>
    max shift.chronicle.now (((shift.call? place).map (·.due)).getD 0)
  | _ => shift.chronicle.now

def waitUntil (period time : Nat) (shift : Shift) : Shift :=
  if shift.pool.returned then shift
  else { shift with chronicle := shift.chronicle.waitUntil period time }

def goOut (scenario : Scenario) (place : Nat) (task : Task) (shift : Shift) : Shift :=
  let chronicle := shift.chronicle
  let course := scenario.course chronicle.upgrades.length task
  let call : Call := ⟨chronicle.now, chronicle.now + course.delay, course.ending⟩
  let jobs := shift.jobs.set place ⟨task, some call⟩
  let told := (chronicle.record (.started task.guid)).ask (.upgrade task.guid task.version)
  let under := (jobs.filter (·.call.isSome)).length
  { shift with jobs := jobs, chronicle := { told with peak := max told.peak under } }

def conclude (place : Nat) (shift : Shift) : Shift :=
  match shift.jobs[place]? with
  | some ⟨task, some call⟩ =>
    let after : Elapsed := ⟨shift.chronicle.now - call.since⟩
    { shift with
      jobs := shift.jobs.eraseIdx place
      chronicle := shift.chronicle.conclude task call.ending after }
  | _ => shift

def follow (shift : Shift) : Pool.Event → Shift
  | .receive =>
    match shift.pool.channel with
    | task :: _ => { shift with jobs := shift.jobs ++ [⟨task, none⟩] }
    | [] => shift
  | .finish place | .panic place => shift.conclude place
  | .send | .hold | .close | .retire | .leave | .abandon => shift

def take (scenario : Scenario) (late : Nat) (shift : Shift) (turn : Turn) : Option Shift :=
  let later := shift.waitUntil scenario.progressPeriod (shift.ready turn + late)
  match turn with
  | .pool event =>
    if shift.allows event then
      (shift.pool.step event).map fun pool => { later.follow event with pool := pool }
    else none
  | .call place =>
    match shift.jobs[place]? with
    | some ⟨task, none⟩ => some (later.goOut scenario place task)
    | _ => none

/-- What may come next, by urgency: a call that is to go out, one that is due, work for an idle
worker, and only then waiting. -/
def wanted (shift : Shift) : List Turn :=
  let out := (shift.jobs.findIdx? (·.call.isNone)).map Turn.call
  let ending := (earliest? shift.jobs).map fun (place, call) => (call.due, Turn.pool (call.event place))
  let due := (ending.filter (·.1 ≤ shift.chronicle.now)).map (·.2)
  out.toList ++ due.toList
    ++ [.pool .receive, .pool .hold, .pool .send, .pool .close, .pool .retire]
    ++ (ending.map (·.2)).toList ++ [.pool .leave, .pool .abandon]

def step? (scenario : Scenario) (schedule : Schedule) (shift : Shift) : Option Shift :=
  (schedule.wishes shift ++ shift.wanted).findSome? fun turn =>
    shift.take scenario (schedule.late shift turn) turn

def run (scenario : Scenario) (schedule : Schedule) : (fuel : Nat) → Shift → Shift
  | 0, shift => shift
  | fuel + 1, shift =>
    match shift.step? scenario schedule with
    | some next => run scenario schedule fuel next
    | none => shift

def turnsLeft (shift : Shift) : Nat :=
  2 * shift.pool.stepsLeft + (shift.jobs.filterMap Job.waiting?).length

end Shift

def Scenario.workThrough (scenario : Scenario) (schedule : Schedule) (batchSize : Nat)
    (tasks : List Task) (chronicle : Chronicle) : Shift :=
  let shift := Shift.begin batchSize tasks chronicle
  shift.run scenario schedule shift.turnsLeft

def Scenario.upgrader (scenario : Scenario) (schedule : Schedule) : Upgrader (StateM Chronicle) where
  apiVersion := do
    modify (·.ask .apiVersion)
    return scenario.apiVersion
  plans broker := do
    modify (·.ask (.plans broker))
    return scenario.plans
  instances plans := do
    modify (·.ask (.instances plans))
    return scenario.instances
  record event := modify (·.record event)
  report := return (← get).report
  upgradeEach batchSize tasks := modify fun chronicle =>
    (scenario.workThrough schedule batchSize tasks chronicle).chronicle

def Scenario.upgradeAll (scenario : Scenario) (schedule : Schedule) (broker : String)
    (batchSize : Nat) : Except UpgradeError Summary × Chronicle :=
  (Upgrade.upgradeAll (scenario.upgrader schedule) broker batchSize).run .start

end BrokerVault.Upgrade
