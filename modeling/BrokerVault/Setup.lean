import BrokerVault.Database.Reencryption
import BrokerVault.Reconciliation
import BrokerVault.Settings

/-! Bringing a database in line with the settings. Where the primary changes, every protected
value is checked first and then rewritten, and only then is the new primary recorded. Credentials
that are no longer configured are removed once everything reads under the final encryptor. -/
namespace BrokerVault

inductive SetupError where
  | reconciling (error : ReconcileError)
  | checking (error : ReencryptError)
  | refused (unreadable : List RecordError)
  | rotating (error : ReencryptError)
  | promoting (error : StoreError)
  | deleting (error : StoreError)
  deriving DecidableEq, Repr

namespace SetupError

def context : SetupError → String
  | .reconciling _ => "error parsing encryption configuration"
  | .checking _ => "error checking database records"
  | .refused _ => "refusing to encrypt the database as some fields cannot be successfully read"
  | .rotating _ => "error rotating database encryption"
  | .promoting _ => "error updating password metadata"
  | .deleting _ => "error deleting stale password metadata"

end SetupError

structure Setup where
  encryptor : Encryptor
  reconciliation : Reconciliation
  rotated : Option Nat
  unreadable : List RecordError
  deleted : List String
  deriving Repr, Inhabited

namespace Setup

variable (suite : CipherSuite)

def rotate (plan : Reconciliation) (rotation : Encryptor) : Action SetupError Nat := do
  let unreadable ← Action.mapError .checking (verifyAll suite rotation)
  if unreadable.isEmpty then
    let rewritten ← Action.mapError .rotating (Reencryption.rewriteAll suite rotation)
    Action.mapError .promoting (Credentials.updatePrimary plan.configuredPrimary)
    return rewritten
  else Action.fail (.refused unreadable)

def removeStale (plan : Reconciliation) (unreadable : List RecordError) :
    Action SetupError (List String) := do
  if unreadable.isEmpty && !plan.stale.isEmpty then
    Action.mapError .deleting (Credentials.deleteByLabels plan.stale)
    return plan.stale
  else return []

def run (settings : Settings) : Action SetupError Setup := do
  let plan ← Action.mapError .reconciling <|
    Reconciliation.reconcile suite settings.enabled settings.passwords
  let rotated ←
    match plan.rotation with
    | some rotation => do
      let rewritten ← rotate suite plan rotation
      pure (some rewritten)
    | none => pure none
  let unreadable ← Action.mapError .checking (verifyAll suite plan.encryptor)
  let deleted ← removeStale plan unreadable
  return ⟨plan.encryptor, plan, rotated, unreadable, deleted⟩

end Setup

namespace Check

inductive Error where
  | reconciling (error : ReconcileError)
  | checking (error : ReencryptError)
  deriving DecidableEq, Repr

def Error.context : Error → String
  | .reconciling _ => "error parsing encryption configuration"
  | .checking _ => "error checking database records"

/-- What the settings could not read, values that are still to be rewritten included. Nothing is
written. -/
def run (suite : CipherSuite) (settings : Settings) : Action Error (List RecordError) := do
  let plan ← Action.mapError .reconciling <|
    Reconciliation.preview suite settings.enabled settings.passwords
  Action.mapError .checking (verifyAll suite (plan.rotation.getD plan.encryptor))

end Check
end BrokerVault
