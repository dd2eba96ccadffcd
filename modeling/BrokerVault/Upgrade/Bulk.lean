import BrokerVault.Upgrade.Platform
import BrokerVault.Upgrade.Report
import BrokerVault.Upgrade.Validation

/-! The upgrade of every instance of a broker's plans for which the platform offers one. What goes
wrong before the first upgrade ends the whole; a failed upgrade is only reported. -/
namespace BrokerVault.Upgrade

structure Task where
  guid : String
  version : String
  deriving DecidableEq, Repr

structure Summary where
  total : Nat
  upgradable : Nat
  succeeded : Nat
  failed : NameMap String
  deriving DecidableEq, Repr

def targetVersion (plans : List Plan) (guid : String) : String :=
  match plans.reverse.find? (·.guid == guid) with
  | some plan => plan.maintenanceVersion
  | none => ""

def tasks (plans : List Plan) (instances : List ServiceInstance) : List Task :=
  (instances.filter (·.upgradeAvailable)).map fun found =>
    ⟨found.guid, targetVersion plans found.planGuid⟩

structure Upgrader (m : Type → Type) extends Platform m where
  record : Report.Event → m Unit
  report : m Report
  upgradeEach : (batchSize : Nat) → List Task → m Unit

variable {m : Type → Type} [Monad m]

def upgradeFound (upgrader : Upgrader m) (batchSize : Nat) (plans : List Plan)
    (instances : List ServiceInstance) : m Summary := do
  let tasks := tasks plans instances
  upgrader.record (.totals instances.length tasks.length)
  if tasks.isEmpty then
    upgrader.record (.note "no instances available to upgrade")
    return ⟨instances.length, tasks.length, 0, []⟩
  else
    upgrader.record (.note "starting upgrade...")
    upgrader.upgradeEach batchSize tasks
    upgrader.record .closing
    let report ← upgrader.report
    return ⟨instances.length, tasks.length, report.successes, report.failures⟩

def upgradeAll (upgrader : Upgrader m) (broker : String) (batchSize : Nat) :
    m (Except UpgradeError Summary) := ExceptT.run do
  ExceptT.mk (pure (checkBroker broker))
  ExceptT.mk (pure (checkBatchSize batchSize))
  let version ← ExceptT.mk upgrader.apiVersion
  ExceptT.mk (pure (checkApiVersion version))
  let plans ← ExceptT.mk (upgrader.plans broker)
  ExceptT.lift (upgrader.record (.note ("discovering service instances for broker: " ++ broker)))
  let instances ← ExceptT.mk (upgrader.instances (plans.map (·.guid)))
  ExceptT.lift (upgradeFound upgrader batchSize plans instances)

end BrokerVault.Upgrade
