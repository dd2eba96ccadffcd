import BrokerVault.Json.Shape
import BrokerVault.Upgrade.Error

/-! What the platform tells about plans and service instances, and the questions that discovery puts
to it. -/
namespace BrokerVault

structure Plan where
  guid : String
  -- Empty if the plan names none.
  maintenanceVersion : String
  deriving DecidableEq, Repr

structure LastOperation where
  kind : String
  state : String
  description : Option String
  deriving DecidableEq, Repr

structure ServiceInstance where
  guid : String
  upgradeAvailable : Bool
  planGuid : String
  lastOperation : Option LastOperation
  deriving DecidableEq, Repr

namespace Plan

def maintenanceShape : Json.Shape String :=
  .record "MaintenanceInfo" (.field "version" .string (.default "") .none)
    fun (version, _) => version

def shape : Json.Shape Plan :=
  .record "Plan"
    (.field "guid" .string .refused <|
      .field "maintenance_info" maintenanceShape (.default "") .none)
    fun (guid, version, _) => ⟨guid, version⟩

end Plan

def LastOperation.shape : Json.Shape LastOperation :=
  .record "LastOperation"
    (.field "type" .string (.default "") <|
      .field "state" .string (.default "") <|
      .field "description" (.optional .string) (.default none) .none)
    fun (kind, state, description, _) => ⟨kind, state, description⟩

namespace ServiceInstance

def referenceShape : Json.Shape String :=
  .record "GuidRef" (.field "guid" .string (.default "") .none) fun (guid, _) => guid

def toOneShape : Json.Shape String :=
  .record "ToOne" (.field "data" referenceShape (.default "") .none) fun (guid, _) => guid

def relationshipsShape : Json.Shape String :=
  .record "Relationships" (.field "service_plan" toOneShape (.default "") .none)
    fun (guid, _) => guid

def shape : Json.Shape ServiceInstance :=
  .record "ServiceInstance"
    (.field "guid" .string .refused <|
      .field "upgrade_available" .bool (.default false) <|
      .field "relationships" relationshipsShape (.default "") <|
      .field "last_operation" (.optional LastOperation.shape) (.default none) .none)
    fun (guid, available, plan, operation, _) => ⟨guid, available, plan, operation⟩

end ServiceInstance

structure Platform (m : Type → Type) where
  apiVersion : m (Except UpgradeError String)
  plans : (broker : String) → m (Except UpgradeError (List Plan))
  instances : (plans : List String) → m (Except UpgradeError (List ServiceInstance))

end BrokerVault
