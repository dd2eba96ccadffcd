import BrokerVault.Proofs.Reconciliation
import BrokerVault.Proofs.Rewriting.Cut
import BrokerVault.Proofs.Verification
import BrokerVault.Setup

/-! The phases of a setup. After reconciling, a rotation that is due checks every value, rewrites them
all and moves the primary; what follows is one more check and the removal of stale credentials. A run
goes through the phases in this order, or ends in one of them with an error. -/
namespace BrokerVault

open Reconciliation

theorem Verification.failuresTables {suite : CipherSuite} {encryptor : Encryptor}
    (database : Database) (stored : Table Credential) :
    failures suite encryptor (database.withCredentials stored) = failures suite encryptor database :=
  failuresSameTables fun name => Database.tableOfWith database stored name

theorem verifyAllRun {suite : CipherSuite} {encryptor : Encryptor} {world : Surroundings}
    {vault : Vault} : verifyAll suite encryptor world vault =
      (Verification.failures suite encryptor vault.database, vault) := rfl

theorem Reencryption.Resealable.reads {suite : CipherSuite} {encryptor : Encryptor}
    {name : ProtectedTable} {row : Row Cell}
    (resealable : Resealable suite encryptor name row) :
    Verification.Reads suite encryptor name row := by
  rcases resealable with null | ⟨value, plaintext, held, read, _⟩
  · exact .inl null
  · exact .inr ⟨value, plaintext, held, read⟩

namespace Setup

inductive Rotating (suite : CipherSuite) (world : Surroundings) (plan : Reconciliation)
    (rotation : Encryptor) (vault : Vault) : Except SetupError Nat → Vault → Prop where
  | refused {error} (unchecked : ¬Verification.AllRead suite rotation vault.database) :
      Rotating suite world plan rotation vault (.error error) vault
  | broken {fault rewritten}
      (checked : Verification.AllRead suite rotation vault.database)
      (ran : Reencryption.rewriteAll suite rotation world vault = (.error fault, rewritten)) :
      Rotating suite world plan rotation vault (.error (.rotating fault)) rewritten
  | unpromoted {fault count rewritten after}
      (checked : Verification.AllRead suite rotation vault.database)
      (ran : Reencryption.rewriteAll suite rotation world vault = (.ok count, rewritten))
      (promotion : Credentials.updatePrimary plan.configuredPrimary world rewritten =
        (.error fault, after)) :
      Rotating suite world plan rotation vault (.error (.promoting fault)) after
  | promoted {count rewritten after}
      (checked : Verification.AllRead suite rotation vault.database)
      (ran : Reencryption.rewriteAll suite rotation world vault = (.ok count, rewritten))
      (promotion : Credentials.updatePrimary plan.configuredPrimary world rewritten =
        (.ok (), after)) :
      Rotating suite world plan rotation vault (.ok count) after

inductive Turned (suite : CipherSuite) (world : Surroundings) (plan : Reconciliation)
    (vault : Vault) : Option Nat → Vault → Prop where
  | none (absent : plan.rotation = .none) : Turned suite world plan vault .none vault
  | some {rotation count after} (due : plan.rotation = .some rotation)
      (rotating : Rotating suite world plan rotation vault (.ok count) after) :
      Turned suite world plan vault (.some count) after

inductive Course (suite : CipherSuite) (world : Surroundings) (settings : Settings) (vault : Vault) :
    Except SetupError Setup → Vault → Prop where
  | unreconciled {error fault after}
      (ran : reconcile suite settings.enabled settings.passwords world vault =
        (.error fault, after)) :
      Course suite world settings vault (.error error) after
  | unturned {plan middle rotation error after}
      (ran : reconcile suite settings.enabled settings.passwords world vault = (.ok plan, middle))
      (due : plan.rotation = some rotation)
      (rotating : Rotating suite world plan rotation middle (.error error) after) :
      Course suite world settings vault (.error error) after
  | unchecked {plan middle rotated error fault after}
      (ran : reconcile suite settings.enabled settings.passwords world vault = (.ok plan, middle))
      (turned : Turned suite world plan middle rotated after)
      (checking : Verification.failures suite plan.encryptor after.database = .error fault) :
      Course suite world settings vault (.error error) after
  | checked {plan middle rotated unreadable turnedVault removal result after}
      (ran : reconcile suite settings.enabled settings.passwords world vault = (.ok plan, middle))
      (turned : Turned suite world plan middle rotated turnedVault)
      (checking : Verification.failures suite plan.encryptor turnedVault.database = .ok unreadable)
      (removing : removeStale plan unreadable world turnedVault = (removal, after))
      (answer : result =
        removal.map fun deleted => ⟨plan.encryptor, plan, rotated, unreadable, deleted⟩) :
      Course suite world settings vault result after

variable {suite : CipherSuite} {world : Surroundings} {settings : Settings} {vault after : Vault}
  {plan : Reconciliation} {rotation : Encryptor}

theorem rotateRan {result : Except SetupError Nat}
    (ran : rotate suite plan rotation world vault = (result, after)) :
    Rotating suite world plan rotation vault result after := by
  rw [rotate] at ran
  rcases Action.bindRan ran with ⟨unreadable, middle, checking, rest⟩ | ⟨error, failed, rfl⟩
  · obtain ⟨found, rfl⟩ := Prod.mk.inj (Action.mapErrorRanOk checking)
    split at rest
    · rename_i none
      rw [List.isEmpty_iff.1 none] at found
      have checked := Verification.failuresNil.1 found
      rcases Action.bindRan rest with ⟨count, rewritten, rewriting, rest⟩ | ⟨error, failed, rfl⟩
      · have rewriting := Action.mapErrorRanOk rewriting
        rcases Action.bindRan rest with ⟨_, promoted, promotion, last⟩ | ⟨error, failed, rfl⟩
        · cases last
          exact .promoted checked rewriting (Action.mapErrorRanOk promotion)
        · obtain ⟨told, unpromoted, same⟩ := Action.mapErrorRan failed
          cases told with
          | ok => cases same
          | error fault =>
            cases same
            exact .unpromoted checked rewriting unpromoted
      · obtain ⟨told, broken, same⟩ := Action.mapErrorRan failed
        cases told with
        | ok => cases same
        | error fault =>
          cases same
          exact .broken checked broken
    · rename_i some
      cases rest
      refine .refused fun checked => some ?_
      cases found.symm.trans (Verification.failuresNil.2 checked)
      rfl
  · obtain ⟨told, stopped, same⟩ := Action.mapErrorRan failed
    obtain ⟨found, rfl⟩ := Prod.mk.inj stopped
    refine .refused fun checked => ?_
    cases found.symm.trans (Verification.failuresNil.2 checked)
    cases same

theorem finishRan {middle turnedVault : Vault} {rotated : Option Nat}
    {result : Except SetupError Setup}
    (reconciled : reconcile suite settings.enabled settings.passwords world vault = (.ok plan, middle))
    (turned : Turned suite world plan middle rotated turnedVault)
    (ran : (do
      let unreadable ← Action.mapError SetupError.checking (verifyAll suite plan.encryptor)
      let deleted ← removeStale plan unreadable
      return (⟨plan.encryptor, plan, rotated, unreadable, deleted⟩ : Setup)) world turnedVault =
        (result, after)) :
    Course suite world settings vault result after := by
  rcases Action.bindRan ran with ⟨unreadable, _, checking, rest⟩ | ⟨error, failed, rfl⟩
  · obtain ⟨found, rfl⟩ := Prod.mk.inj (Action.mapErrorRanOk checking)
    rcases Action.bindRan rest with ⟨deleted, _, removing, last⟩ | ⟨error, failed, rfl⟩
    · cases last
      exact .checked reconciled turned found removing rfl
    · exact .checked reconciled turned found failed rfl
  · obtain ⟨told, stopped, same⟩ := Action.mapErrorRan failed
    obtain ⟨found, rfl⟩ := Prod.mk.inj stopped
    cases told with
    | ok => cases same
    | error fault => exact .unchecked reconciled turned found

theorem runRan {result : Except SetupError Setup}
    (ran : run suite settings world vault = (result, after)) :
    Course suite world settings vault result after := by
  rw [run] at ran
  rcases Action.bindRan ran with ⟨plan, middle, reconciling, rest⟩ | ⟨error, failed, rfl⟩
  · have reconciled := Action.mapErrorRanOk reconciling
    cases due : plan.rotation with
    | none =>
      simp only [due] at rest
      rw [Action.bindPure] at rest
      exact finishRan reconciled (.none due) rest
    | some rotation =>
      simp only [due] at rest
      rcases Action.bindRan rest with ⟨count, _, rotating, rest⟩ | ⟨error, failed, rfl⟩
      · rw [Action.bindPure] at rest
        exact finishRan reconciled (.some due (rotateRan rotating)) rest
      · exact .unturned reconciled due (rotateRan failed)
  · obtain ⟨told, stopped, same⟩ := Action.mapErrorRan failed
    cases told with
    | ok => cases same
    | error fault => exact .unreconciled stopped

theorem removeStaleRan {unreadable : List RecordError} {stored : Table Credential}
    {result : Except SetupError (List String)} (found : vault.database.credentials = some stored)
    (ran : removeStale plan unreadable world vault = (result, after)) :
    (∃ deleted, result = .ok deleted) ∧
    (unreadable ≠ [] → after.database = vault.database) ∧
    (unreadable = [] → after.database = vault.database.withCredentials
      (stored.keep fun row => !plan.stale.contains row.id)) ∧
    ∀ Good, Good vault.database → Good after.database → vault.Leads Good after := by
  rw [removeStale] at ran
  split at ran
  · rename_i both
    rw [Bool.and_eq_true] at both
    have none : unreadable = [] := List.isEmpty_iff.1 both.1
    have stale : plan.stale ≠ [] := by simpa using both.2
    rw [Action.bindOfOk (Action.mapErrorOfOk (Credentials.deleteFound found stale))] at ran
    cases ran
    exact ⟨⟨_, rfl⟩, fun some => absurd none some, fun _ => rfl,
      fun _ good new => Vault.leadsCommit good new rfl rfl⟩
  · rename_i either
    cases ran
    refine ⟨⟨_, rfl⟩, fun _ => rfl, fun none => ?_, fun _ good _ => Vault.leadsSame good rfl rfl⟩
    have stale : plan.stale = [] := by simpa [none] using either
    have all : stored.keep (fun row => !plan.stale.contains row.id) = stored :=
      Table.sameRows (by simp [Table.keep, stale])
    rw [all, Database.withCredentialsSame found]

end Setup
end BrokerVault
