import BrokerVault.Database.Credentials
import BrokerVault.Password.Reader

/-! Reconciling the configured passwords with the stored credentials. The stored canary of every
configured label must open; a label that is new gets a salt and a canary; the stored primary must
still be configured. The outcome is the encryptor for new values and, where the primary changes, the
one to rewrite stored values with. -/
namespace BrokerVault

inductive ReconcileError where
  | password (error : PasswordError)
  | store (error : StoreError)
  | missingPrimary
  | unexpectedPrimary
  | canaryMismatch (label : String)
  | canary (label : String) (cause : CipherError)
  | missingPriorPrimary (label : String)
  | severalPrimaries
  | sealing (label : String) (cause : CipherError)
  | derivation (fault : CipherSuite.KeyFault)
  deriving DecidableEq, Repr

def ReconcileError.message : ReconcileError → String
  | .password error => error.message
  | .store error => error.message
  | .missingPrimary =>
    "encryption is enabled but no primary password is set; mark one of the passwords as primary"
  | .unexpectedPrimary =>
    "encryption is disabled but a primary password is set; mark the password as non-primary"
  | .canaryMismatch label =>
    "canary mismatch for password labelled " ++ Text.quoted label
      ++ " - check that the password value has not changed"
  | .canary label cause =>
    "encryption canary error for password labelled " ++ Text.quoted label ++ ": " ++ cause.message
  | .missingPriorPrimary label =>
    "the password labelled " ++ Text.quoted label ++ " must be supplied to decrypt the database"
  | .severalPrimaries =>
    "corrupt database - more than one primary found in table " ++ credentialTable
      ++ "; mark only one as primary but do not remove rows"
  | .sealing label cause =>
    "failed to seal canary for password labelled " ++ Text.quoted label ++ ": " ++ cause.message
  | .derivation fault => fault.message

namespace Canary

def plaintext : Bytes := .ofText "canary value"

def sealFor (suite : CipherSuite) (encryptor : Encryptor) :
    Action CipherError Bytes := do
  let nonce ← Action.random nonceLength
  Action.ofExcept (encryptor.encrypt suite nonce plaintext)

def check (suite : CipherSuite) (encryptor : Encryptor) (canary : Bytes) (label : String) :
    Except ReconcileError Unit :=
  match encryptor.decrypt suite canary with
  | .ok _ => .ok ()
  | .error .rejected => .error (.canaryMismatch label)
  | .error .malformed => .error (.canaryMismatch label)
  | .error cause => .error (.canary label cause)

end Canary

structure Reconciliation where
  encryptor : Encryptor
  /-- Reads under every configured key and writes under the new primary; there if it changes. -/
  rotation : Option Encryptor
  changed : Bool
  -- Empty where no configured entry is primary.
  configuredPrimary : String
  -- Empty where no stored credential is primary.
  storedPrimary : String
  stale : List String
  deriving Repr, Inhabited

namespace Reconciliation

inductive Mode where
  | save
  | preview
  deriving DecidableEq, Repr

variable (suite : CipherSuite)

def solePrimary? (stored : List (Row Credential)) : Except ReconcileError (Option String) :=
  match stored.filter (·.value.primary) with
  | [] => .ok none
  | [only] => .ok (some only.id)
  | _ => .error .severalPrimaries

def deriveFor (entry : Password) (salt : Bytes) : Except ReconcileError Encryptor :=
  match suite.derive? entry.secret salt with
  | .ok key => .ok (.aead entry.label key)
  | .error fault => .error (.derivation fault)

def knownEncryptor (entry : Password) (credential : Credential) :
    Except ReconcileError Encryptor := do
  let encryptor ← deriveFor suite entry credential.salt
  Canary.check suite encryptor credential.canary entry.label
  return encryptor

def newEncryptor (mode : Mode) (entry : Password) : Action ReconcileError Encryptor := do
  match ← Action.random saltLength with
  | none => Action.fail (.sealing entry.label .noRandomness)
  | some salt =>
    let encryptor ← Action.ofExcept (deriveFor suite entry salt.1)
    match mode with
    | .preview => return encryptor
    | .save =>
      let canary ← Action.mapError (.sealing entry.label) (Canary.sealFor suite encryptor)
      Action.mapError .store (Credentials.saveNew entry.label salt.1 canary)
      return encryptor

def encryptorsFor (mode : Mode) (stored : List (Row Credential)) :
    List Password → Action ReconcileError (List Encryptor)
  | [] => return []
  | entry :: rest => do
    let encryptor ←
      match stored.find? (·.id == entry.label) with
      | some row => Action.ofExcept (knownEncryptor suite entry row.value)
      | none => newEncryptor suite mode entry
    let following ← encryptorsFor mode stored rest
    return encryptor :: following

/-- What the policy makes of the labels and keys. Plaintext rows exist before the first primary and
after the last one, and are read where neither decryptor before takes them. -/
def ofPolicy (enabled : Bool) (stored : List (Row Credential)) (storedPrimary : Option String)
    (configured : List (Password × Encryptor)) : Except ReconcileError Reconciliation :=
  let labels := configured.map (·.1.label)
  let primary := configured.find? (·.1.primary)
  match storedPrimary.filter fun label => !labels.contains label with
  | some label => .error (.missingPriorPrimary label)
  | none =>
    match enabled, primary with
    | true, none => .error .missingPrimary
    | false, some _ => .error .unexpectedPrimary
    | _, _ =>
      let encryptor := (primary.map (·.2)).getD .noop
      let configuredPrimary := (primary.map (·.1.label)).getD ""
      let storedLabel := storedPrimary.getD ""
      let changed := configuredPrimary != storedLabel
      let plain := if storedPrimary.isNone || primary.isNone then [Encryptor.noop] else []
      let rotation := Encryptor.compound encryptor (configured.map (·.2) ++ plain)
      .ok
        { encryptor
          rotation := if changed then some rotation else none
          changed
          configuredPrimary
          storedPrimary := storedLabel
          stale := (stored.map (·.id)).filter fun label => !labels.contains label }

def reconcileWith (mode : Mode) (enabled : Bool) (configured : List Password) :
    Action ReconcileError Reconciliation := do
  let stored ← Action.mapError .store Credentials.load
  let storedPrimary ← Action.ofExcept (solePrimary? stored)
  let encryptors ← encryptorsFor suite mode stored configured
  Action.ofExcept (ofPolicy enabled stored storedPrimary (configured.zip encryptors))

def reconcile (enabled : Bool) (configured : List Password) :
    Action ReconcileError Reconciliation :=
  reconcileWith suite .save enabled configured

def preview (enabled : Bool) (configured : List Password) :
    Action ReconcileError Reconciliation :=
  reconcileWith suite .preview enabled configured

def ofText (enabled : Bool) (passwords : String) : Action ReconcileError Reconciliation := do
  let configured ← Action.ofExcept ((Password.ofText? passwords).mapError .password)
  reconcile suite enabled configured

end Reconciliation
end BrokerVault
