import BrokerVault.Upgrade.Shift

/-! A bulk upgrade against a platform whose answers hang on the instance alone. Time passes only while
every worker waits for the platform, so the rehearsal takes none. Between two upgrades that do not
wait the first ends before the second is taken. -/
namespace BrokerVault.Upgrade

structure Script where
  apiVersion : Except UpgradeError String
  plans : Except UpgradeError (List Plan)
  instances : Except UpgradeError (List ServiceInstance)
  course : (guid : String) → Course
  progressPeriod : Nat

def Script.scenario (script : Script) : Scenario where
  apiVersion := script.apiVersion
  plans := script.plans
  instances := script.instances
  course _ task := script.course task.guid
  progressPeriod := script.progressPeriod

def Schedule.prompt : Schedule := ⟨fun _ => [], fun _ _ => 0⟩

def rehearse (script : Script) (broker : String) (batchSize : Nat) :
    Except UpgradeError Summary × Chronicle :=
  script.scenario.upgradeAll .prompt broker batchSize

end BrokerVault.Upgrade
