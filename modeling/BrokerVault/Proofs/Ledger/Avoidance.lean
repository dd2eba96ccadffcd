import BrokerVault.Proofs.Reconciliation
import BrokerVault.Setup

/-! Two refusals come from what reconciling is given: from several stored primaries, and from a secret
or a salt that no key is derived from. Where neither is given, nothing that reconciling, a setup or a
check does later ends in one of them. -/
namespace BrokerVault.Ledger

open Reconciliation

def OfGiven : ReconcileError → Prop
  | .severalPrimaries | .derivation _ => True
  | _ => False

inductive Handed (rows : List (Row Credential)) (entries : List Password) :
    Password → Bytes → Prop where
  | known {entry row} (configured : entry ∈ entries)
      (found : rows.find? (·.id == entry.label) = some row) :
      Handed rows entries entry row.value.salt
  | drawn {entry} (configured : entry ∈ entries) (salt : BytesOf saltLength) :
      Handed rows entries entry salt.1

variable {ε ε' α β : Type} {bad : ε}

def Avoids (bad : ε) (action : Action ε α) : Prop :=
  ∀ world vault, (action world vault).1 ≠ .error bad

namespace Avoids

theorem pure (value : α) : Avoids bad (Pure.pure value) := fun _ _ wrong => nomatch wrong

theorem random (length : Nat) : Avoids bad (Action.random length) := fun _ _ wrong => nomatch wrong

theorem fail {error : ε} (apart : error ≠ bad) : Avoids bad (Action.fail error : Action ε α) :=
  fun _ _ wrong => apart (Except.error.inj wrong)

theorem ofExcept {result : Except ε α} (apart : result ≠ .error bad) :
    Avoids bad (Action.ofExcept result) := fun _ _ => apart

theorem bind {first : Action ε α} {next : α → Action ε β} (head : Avoids bad first)
    (tail : ∀ value, Avoids bad (next value)) : Avoids bad (first >>= next) := by
  intro world vault
  have here := head world vault
  cases ran : first world vault with
  | mk result middle =>
    rw [ran] at here
    cases result with
    | error error =>
      rw [Action.bindOfError ran]
      exact fun wrong => here (congrArg _ (Except.error.inj wrong))
    | ok value =>
      rw [Action.bindOfOk ran]
      exact tail value world middle

theorem mapError {change : ε' → ε} (apart : ∀ error, change error ≠ bad) (action : Action ε' α) :
    Avoids bad (Action.mapError change action) := by
  intro world vault
  cases ran : action world vault with
  | mk result middle =>
    cases result with
    | error error =>
      rw [Action.mapErrorOfError ran]
      exact fun wrong => apart error (Except.error.inj wrong)
    | ok value =>
      rw [Action.mapErrorOfOk ran]
      exact fun wrong => nomatch wrong

end Avoids

variable {suite : CipherSuite} {vault : Vault} {stored : Table Credential} {sole : Option String}
  {refusal : ReconcileError} {rows : List (Row Credential)} {entries : List Password}

theorem OfGiven.apart (given : OfGiven refusal) {error : ReconcileError} (other : ¬OfGiven error) :
    error ≠ refusal := fun same => other (same ▸ given)

theorem Handed.behind {entry : Password} {salt : Bytes} (handed : Handed rows entries entry salt)
    (first : Password) : Handed rows (first :: entries) entry salt := by
  cases handed with
  | known configured found => exact .known (List.mem_cons_of_mem _ configured) found
  | drawn configured salt => exact .drawn (List.mem_cons_of_mem _ configured) salt

theorem deriveForAlone (suite : CipherSuite) (entry : Password) (salt : Bytes) :
    deriveFor suite entry salt ≠ .error .severalPrimaries := by
  rw [deriveFor]
  cases suite.derive? entry.secret salt <;> simp

theorem knownEncryptorAvoids (given : OfGiven refusal) {entry : Password} {credential : Credential}
    (derives : deriveFor suite entry credential.salt ≠ .error refusal) :
    knownEncryptor suite entry credential ≠ .error refusal := by
  rw [knownEncryptor]
  cases found : deriveFor suite entry credential.salt with
  | error error =>
    rw [found] at derives
    exact fun wrong => derives (congrArg _ (Except.error.inj wrong))
  | ok encryptor =>
    have mismatched : ReconcileError.canaryMismatch entry.label ≠ refusal := given.apart id
    have unopened (cause : CipherError) : ReconcileError.canary entry.label cause ≠ refusal :=
      given.apart id
    cases opened : encryptor.decrypt suite credential.canary with
    | ok text => simp [Canary.check, opened, bind, Except.bind, pure, Except.pure]
    | error cause =>
      cases cause <;> simp [Canary.check, opened, bind, Except.bind, mismatched, unopened]

theorem newEncryptorAvoids (given : OfGiven refusal) {entry : Password} (mode : Mode)
    (derives : ∀ salt : BytesOf saltLength, deriveFor suite entry salt.1 ≠ .error refusal) :
    Avoids refusal (newEncryptor suite mode entry) := by
  refine (Avoids.random saltLength).bind fun drawn => ?_
  cases drawn with
  | none => exact .fail (given.apart id)
  | some salt =>
    refine (Avoids.ofExcept (derives salt)).bind fun encryptor => ?_
    cases mode with
    | preview => exact .pure encryptor
    | save =>
      refine (Avoids.mapError (fun _ => given.apart id) _).bind fun canary => ?_
      exact (Avoids.mapError (fun _ => given.apart id) _).bind fun _ => .pure encryptor

theorem ofPolicyAvoids (given : OfGiven refusal) (enabled : Bool) (rows : List (Row Credential))
    (configured : List (Password × Encryptor)) :
    ofPolicy enabled rows sole configured ≠ .error refusal := by
  have unsupplied (label : String) : ReconcileError.missingPriorPrimary label ≠ refusal :=
    given.apart id
  have unset : ReconcileError.missingPrimary ≠ refusal := given.apart id
  have unwanted : ReconcileError.unexpectedPrimary ≠ refusal := given.apart id
  simp only [ofPolicy]
  cases sole.filter fun label => !(configured.map (·.1.label)).contains label with
  | some label => simp [unsupplied]
  | none => cases enabled <;> cases configured.find? (·.1.primary) <;> simp [unset, unwanted]

theorem encryptorsForAvoids (given : OfGiven refusal) (mode : Mode)
    (derives : ∀ entry salt, Handed rows entries entry salt →
      deriveFor suite entry salt ≠ .error refusal) :
    Avoids refusal (encryptorsFor suite mode rows entries) := by
  induction entries with
  | nil => exact .pure []
  | cons entry rest ih =>
    have following := ih fun other salt handed => derives other salt (handed.behind entry)
    rw [encryptorsFor]
    cases found : rows.find? (·.id == entry.label) with
    | none =>
      have fresh := newEncryptorAvoids given mode fun salt =>
        derives entry salt.1 (.drawn List.mem_cons_self salt)
      exact fresh.bind fun _ => following.bind fun _ => .pure _
    | some row =>
      have known := knownEncryptorAvoids given
        (derives entry row.value.salt (.known List.mem_cons_self found))
      exact (Avoids.ofExcept known).bind fun _ => following.bind fun _ => .pure _

theorem reconcilingAvoids (given : OfGiven refusal)
    (found : vault.database.credentials = some stored)
    (alone : solePrimary? stored.rows ≠ .error refusal)
    (derives : ∀ entry salt, Handed stored.rows entries entry salt →
      deriveFor suite entry salt ≠ .error refusal)
    (mode : Mode) (enabled : Bool) (world : Surroundings) :
    (reconcileWith suite mode enabled entries world vault).1 ≠ .error refusal := by
  cases primary : solePrimary? stored.rows with
  | error error =>
    rw [primary] at alone
    rw [reconcileWithSeveral mode enabled entries found primary]
    exact fun wrong => alone (congrArg _ (Except.error.inj wrong))
  | ok sole =>
    rw [reconcileWithAlone mode enabled entries found primary]
    exact (encryptorsForAvoids given mode derives).bind
      (fun _ => .ofExcept (ofPolicyAvoids given enabled _ _)) world vault

theorem setupAvoids {world : Surroundings} {settings : Settings}
    (reconciling : (reconcile suite settings.enabled settings.passwords world vault).1 ≠
      .error refusal) :
    (Setup.run suite settings world vault).1 ≠ .error (.reconciling refusal) := by
  cases ran : reconcile suite settings.enabled settings.passwords world vault with
  | mk result middle =>
    rw [ran] at reconciling
    cases result with
    | error error =>
      rw [Setup.run, Action.bindOfError (Action.mapErrorOfError ran)]
      intro wrong
      cases wrong
      exact reconciling rfl
    | ok plan =>
      have finish (rotated : Option Nat) : Avoids (.reconciling refusal) (do
          let unreadable ← Action.mapError SetupError.checking (verifyAll suite plan.encryptor)
          let deleted ← Setup.removeStale plan unreadable
          return (⟨plan.encryptor, plan, rotated, unreadable, deleted⟩ : Setup)) := by
        refine (Avoids.mapError (by simp) _).bind fun unreadable => Avoids.bind ?_ fun _ => .pure _
        rw [Setup.removeStale]
        split
        · exact (Avoids.mapError (by simp) _).bind fun _ => .pure _
        · exact .pure []
      rw [Setup.run, Action.bindOfOk (Action.mapErrorOfOk ran)]
      cases plan.rotation with
      | none => exact (Avoids.pure none).bind finish world middle
      | some rotation =>
        refine Avoids.bind ?_ (fun _ => (Avoids.pure _).bind finish) world middle
        refine (Avoids.mapError (by simp) _).bind fun unreadable => ?_
        split
        · exact (Avoids.mapError (by simp) _).bind fun _ =>
            (Avoids.mapError (by simp) _).bind fun _ => .pure _
        · exact .fail (by simp)

theorem checkAvoids {world : Surroundings} {settings : Settings}
    (previewing : (preview suite settings.enabled settings.passwords world vault).1 ≠
      .error refusal) :
    (Check.run suite settings world vault).1 ≠ .error (.reconciling refusal) := by
  cases ran : preview suite settings.enabled settings.passwords world vault with
  | mk result middle =>
    rw [ran] at previewing
    cases result with
    | error error =>
      rw [Check.run, Action.bindOfError (Action.mapErrorOfError ran)]
      intro wrong
      cases wrong
      exact previewing rfl
    | ok plan =>
      rw [Check.run, Action.bindOfOk (Action.mapErrorOfOk ran)]
      exact Avoids.mapError (by simp) _ world middle

end BrokerVault.Ledger
