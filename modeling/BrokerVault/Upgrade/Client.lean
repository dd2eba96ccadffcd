import BrokerVault.Json.Printer
import BrokerVault.Upgrade.Bulk
import BrokerVault.Upgrade.Exchange

/-! The platform as reached by requests. An upgrade is asked for once, and then its instance is
looked at again and again until the platform has decided or the time is up. -/
namespace BrokerVault.Upgrade

structure Polling where
  -- Nanoseconds from an answer to the next question.
  interval : Nat
  timeout : Nat
  deriving DecidableEq, Repr

def Polling.standard : Polling := ⟨10 * Elapsed.second, 600 * Elapsed.second⟩

structure Client where
  -- Without slashes at its end.
  base : String
  token : String
  polling : Polling
  deriving DecidableEq, Repr

def apiVersionShape : Json.Shape String :=
  .record "RootInfo" (.field "links" links .refused .none) fun (version, _) => version
where
  details : Json.Shape String :=
    .record "V3Meta" (.field "version" .string .refused .none) fun (version, _) => version
  link : Json.Shape String :=
    .record "V3Link" (.field "meta" details .refused .none) fun (version, _) => version
  links : Json.Shape String :=
    .record "RootLinks" (.field "cloud_controller_v3" link .refused .none)
      fun (version, _) => version

def resourcesShape {α : Type} (shape : Json.Shape α) : Json.Shape (List α) :=
  .record "Resources" (.field "resources" shape.list .refused .none) fun (resources, _) => resources

def upgradeBody (version : String) : String :=
  (Json.object [("maintenance_info", .object [("version", .string version)])]).text

def requestDetail (fault : RequestFault) : String := "http request error: " ++ fault.message

def answered {α : Type} (shape : Json.Shape α) (answer : Except RequestFault HttpAnswer) :
    Except String α :=
  match answer with
  | .error fault => .error (requestDetail fault)
  | .ok answer =>
    if answer.status = 200 then
      match shape.ofBytes? answer.body with
      | .ok value => .ok value
      | .error _ =>
        .error "failed to unmarshal response into receiver error: error decoding response body"
    else .error ("http response: " ++ toString answer.status)

def accepted (answer : Except RequestFault HttpAnswer) : Except String Unit :=
  match answer with
  | .error fault => .error (requestDetail fault)
  | .ok answer =>
    if answer.status = 202 then .ok () else .error ("http response: " ++ toString answer.status)

def outcome? (found : Except String ServiceInstance) : Option (Except UpgradeError Unit) :=
  match found with
  | .error detail => some (.error (.request detail))
  | .ok found =>
    match found.lastOperation.filter (·.kind == "update") with
    | none => none
    | some operation =>
      if operation.state = "failed" then
        some (.error (.failed (operation.description.getD "")))
      else if operation.state = "in progress" then none
      else some (.ok ())

namespace Client

def ofAddress (address token : String) (polling : Polling) : Client :=
  ⟨String.ofList (Text.dropEndWhile (· == '/') address.toList), token, polling⟩

def request (client : Client) (method : Method) (path : String) (body : Option String) :
    Except RequestFault HttpRequest :=
  HttpRequest.of? method (client.base ++ "/" ++ path) client.token body

def instancePath (guid : String) : String := "v3/service_instances/" ++ guid

variable {m : Type → Type} [Monad m]

def ask (transport : Transport m) (request : Except RequestFault HttpRequest) :
    m (Except RequestFault HttpAnswer) :=
  match request with
  | .error fault => return .error fault
  | .ok request => do
    match ← transport.send request none with
    | some answer => return answer
    | none => return .error (.unanswered request.url.text)

def get {α : Type} (client : Client) (transport : Transport m) (shape : Json.Shape α)
    (path : String) : m (Except String α) := do
  return answered shape (← ask transport (client.request .get path none))

def platform (client : Client) (transport : Transport m) : Platform m where
  apiVersion := do
    return (← client.get transport apiVersionShape "").mapError fun detail =>
      .invalidInput ("error retrieving api version: " ++ detail)
  plans broker := do
    let path := "v3/service_plans?per_page=5000&service_broker_names=" ++ broker
    return (← client.get transport (resourcesShape Plan.shape) path).mapError fun detail =>
      .discovery ("error getting service plans: " ++ detail)
  instances plans :=
    if plans.isEmpty then return .error (.discovery "no service_plan_guids specified")
    else do
      let path := "v3/service_instances?per_page=5000&service_plan_guids="
        ++ String.intercalate "," plans
      return (← client.get transport (resourcesShape ServiceInstance.shape) path).mapError
        fun detail => .discovery ("error getting service instances: " ++ detail)

/-- Looks at the instance until its outcome is known. Every round takes time, so the fuel lasts
until the deadline. -/
def poll (transport : Transport m) (request : Except RequestFault HttpRequest)
    (interval deadline : Nat) : (fuel : Nat) → m (Except UpgradeError Unit)
  | 0 => return .error .timeout
  | fuel + 1 => do
    let answer ←
      match request with
      | .error fault => pure (some (.error fault))
      | .ok request => transport.send request (some deadline)
    match answer with
    | none => return .error .timeout
    | some answer =>
      match outcome? (answered ServiceInstance.shape answer) with
      | some outcome => return outcome
      | none => do
        let now ← transport.now
        transport.sleep (min interval (deadline - now))
        if deadline ≤ now + interval then return .error .timeout
        else poll transport request interval deadline fuel

def upgrade (client : Client) (transport : Transport m) (guid version : String) :
    m (Except UpgradeError Unit) := do
  let path := instancePath guid
  let asked := client.request .patch path (some (upgradeBody version))
  match accepted (← ask transport asked) with
  | .error detail => return .error (.request detail)
  | .ok () => do
    let now ← transport.now
    let interval := max 1 client.polling.interval
    poll transport (client.request .get path none) interval (now + client.polling.timeout)
      (client.polling.timeout / interval + 1)

end Client

def carryOut {m : Type → Type} [Monad m] (record : Report.Event → m Unit) (now : m Nat)
    (upgrade : (guid version : String) → m (Except UpgradeError Unit)) (task : Task) : m Unit := do
  record (.started task.guid)
  let since ← now
  let outcome ← upgrade task.guid task.version
  let after : Elapsed := ⟨(← now) - since⟩
  match outcome with
  | .ok () => record (.succeeded task.guid after)
  | .error error => record (.failed task.guid after error.message)

end BrokerVault.Upgrade
