import BrokerVault.Proofs.Failure
import BrokerVault.Proofs.Foresight.Twins

/-! What a check foretells of a setup on the same database. The check writes nothing, and it fails
where the setup fails before it rewrites anything; what it finds unreadable is what the setup refuses
for, or, where nothing is rewritten, what the setup finds too. -/
namespace BrokerVault

open Reencryption Reconciliation Foresight

namespace Setup

variable {suite : CipherSuite} {world : Surroundings} {settings : Settings} {vault middle : Vault}
  {plan : Reconciliation} {rotation : Encryptor} {unreadable : List RecordError}

section Planned

variable (reconciling : reconcile suite settings.enabled settings.passwords world vault =
  (.ok plan, middle))
include reconciling

theorem runUnchecked {fault : ReencryptError}
    (found : Verification.failures suite (plan.rotation.getD plan.encryptor) middle.database =
      .error fault) :
    (run suite settings world vault).1 = .error (.checking fault) := by
  rw [run, Action.bindOfOk (Action.mapErrorOfOk reconciling)]
  cases due : plan.rotation with
  | none =>
    rw [due, Option.getD_none] at found
    have checking : verifyAll suite plan.encryptor world middle = (.error fault, middle) := by
      rw [verifyAllRun, found]
    simp only []
    rw [Action.bindPure, Action.bindOfError (Action.mapErrorOfError checking)]
  | some rotation =>
    rw [due, Option.getD_some] at found
    have checking : verifyAll suite rotation world middle = (.error fault, middle) := by
      rw [verifyAllRun, found]
    have rotating : rotate suite plan rotation world middle =
        (.error (.checking fault), middle) := by
      rw [rotate, Action.bindOfError (Action.mapErrorOfError checking)]
    simp only []
    rw [Action.bindOfError rotating]

theorem runRefused (due : plan.rotation = some rotation)
    (found : Verification.failures suite rotation middle.database = .ok unreadable)
    (some : unreadable ≠ []) :
    (run suite settings world vault).1 = .error (.refused unreadable) := by
  have checking : verifyAll suite rotation world middle = (.ok unreadable, middle) := by
    rw [verifyAllRun, found]
  have rotating : rotate suite plan rotation world middle =
      (.error (.refused unreadable), middle) := by
    rw [rotate, Action.bindOfOk (Action.mapErrorOfOk checking), if_neg (by simpa using some)]
    rfl
  rw [run, Action.bindOfOk (Action.mapErrorOfOk reconciling)]
  simp only [due]
  rw [Action.bindOfError rotating]

theorem runResting (absent : plan.rotation = none)
    (found : Verification.failures suite plan.encryptor middle.database = .ok unreadable) :
    ∃ setup, (run suite settings world vault).1 = .ok setup ∧ setup.reconciliation = plan ∧
      setup.unreadable = unreadable := by
  obtain ⟨_, _, _, _, _, _, _, _, table⟩ := reconcileFounded reconciling
  cases ran : run suite settings world vault with
  | mk result after =>
    cases runRan ran with
    | unreconciled refused => cases reconciling.symm.trans refused
    | unturned again due =>
      cases reconciling.symm.trans again
      cases absent.symm.trans due
    | unchecked again turned checking =>
      cases reconciling.symm.trans again
      cases turned with
      | none => cases found.symm.trans checking
      | some due => cases absent.symm.trans due
    | checked again turned checking removing answer =>
      cases reconciling.symm.trans again
      cases turned with
      | none =>
        cases found.symm.trans checking
        obtain ⟨⟨deleted, rfl⟩, _⟩ := removeStaleRan table removing
        exact ⟨_, answer, rfl, rfl⟩
      | some due => cases absent.symm.trans due

theorem runTurning (calm : world.Calm) (accepted : Password.Accepted settings.passwords)
    (due : plan.rotation = some rotation)
    (found : Verification.failures suite rotation middle.database = .ok []) :
    (∃ setup, (run suite settings world vault).1 = .ok setup ∧ setup.reconciliation = plan) ∨
    ∃ error, (run suite settings world vault).1 = .error (.rotating error) ∧
      Unwritten suite rotation middle.database error := by
  obtain ⟨_, _, _, _, _, _, founded, _, table⟩ := reconcileFounded reconciling
  have readable := Verification.failuresNil.1 found
  cases ran : run suite settings world vault with
  | mk result after =>
    cases runRan ran with
    | unreconciled refused => cases reconciling.symm.trans refused
    | unturned again dueAgain rotating =>
      cases reconciling.symm.trans again
      cases due.symm.trans dueAgain
      cases rotating with
      | refused unchecked => exact (unchecked readable).elim
      -- The rewriting is the only step that can fail here, and only where it seals.
      | broken _ broken => exact .inr ⟨_, rfl, rewriteAllFails calm readable broken⟩
      | unpromoted _ rewriting promotion =>
        have credentials := (rewriteAllWhole rewriting).2.1.trans table
        obtain ⟨_, promoted⟩ := founded.promotable accepted world credentials
        cases promotion.symm.trans promoted
    | unchecked again turned checking =>
      cases reconciling.symm.trans again
      cases turned with
      | none absent => cases due.symm.trans absent
      | some _ rotating =>
        obtain ⟨_, _, answered⟩ := promotedAnswers accepted founded table rotating
        cases checking.symm.trans answered
    | checked again turned _ removing answer =>
      cases reconciling.symm.trans again
      obtain ⟨changed, left, _⟩ := turnedStored accepted founded table turned
      obtain ⟨⟨deleted, rfl⟩, _⟩ := removeStaleRan left removing
      exact .inl ⟨_, answer, rfl⟩

end Planned
end Setup

namespace Foresight

variable {suite : CipherSuite} {world later : Surroundings} {settings : Settings}
  {vault again : Vault}

inductive Foretold (suite : CipherSuite) (world later : Surroundings) (base : Database)
    (entries : List Password) :
    Except ReconcileError Reconciliation → Except ReconcileError Reconciliation →
    Except Check.Error (List RecordError) → Except SetupError Setup → Prop where
  | unreconciled {error} : Foretold suite world later base entries (.error error) (.error error)
      (.error (.reconciling error)) (.error (.reconciling error))
  | unchecked {plan actual fault} (alike : Alike suite world later base entries plan actual) :
      Foretold suite world later base entries (.ok plan) (.ok actual)
        (.error (.checking fault)) (.error (.checking fault))
  | refused {plan actual unreadable} (alike : Alike suite world later base entries plan actual)
      (changed : actual.changed = true) (some : unreadable ≠ []) :
      Foretold suite world later base entries (.ok plan) (.ok actual)
        (.ok unreadable) (.error (.refused unreadable))
  | rotated {plan actual setup} (alike : Alike suite world later base entries plan actual)
      (changed : actual.changed = true) (planned : setup.reconciliation = actual) :
      Foretold suite world later base entries (.ok plan) (.ok actual) (.ok []) (.ok setup)
  | unsealed {plan actual rotation error}
      (alike : Alike suite world later base entries plan actual) (changed : actual.changed = true)
      (due : actual.rotation = some rotation) (unwritten : Unwritten suite rotation base error) :
      Foretold suite world later base entries (.ok plan) (.ok actual)
        (.ok []) (.error (.rotating error))
  | resting {plan actual setup} (alike : Alike suite world later base entries plan actual)
      (unchanged : actual.changed = false) (planned : setup.reconciliation = actual) :
      Foretold suite world later base entries (.ok plan) (.ok actual)
        (.ok setup.unreadable) (.ok setup)

theorem checkRefused {error : ReconcileError} {middle : Vault}
    (previewed : preview suite settings.enabled settings.passwords world vault =
      (.error error, middle)) :
    Check.run suite settings world vault = (.error (.reconciling error), middle) := by
  rw [Check.run, Action.bindOfError (Action.mapErrorOfError previewed)]

theorem checkPlanned {plan : Reconciliation} {middle : Vault}
    (previewed : preview suite settings.enabled settings.passwords world vault =
      (.ok plan, middle)) :
    Check.run suite settings world vault =
      ((Verification.failures suite (plan.rotation.getD plan.encryptor) vault.database).mapError
        .checking, middle) := by
  have idle := (previewIdle suite settings.enabled settings.passwords world vault).1
  rw [previewed] at idle
  rw [Check.run, Action.bindOfOk (Action.mapErrorOfOk previewed), ← idle]
  cases found : Verification.failures suite (plan.rotation.getD plan.encryptor) middle.database with
  | error fault =>
    refine Action.mapErrorOfError ?_
    rw [verifyAllRun, found]
  | ok unreadable =>
    refine Action.mapErrorOfOk ?_
    rw [verifyAllRun, found]

theorem setupForetold (calm : later.Calm) (accepted : Password.Accepted settings.passwords)
    (unopened : Unopened suite world vault.database settings.passwords)
    (unopenedLater : Unopened suite later vault.database settings.passwords)
    (same : again.database = vault.database) {plan actual : Reconciliation} {left : Vault}
    (reconciling : reconcile suite settings.enabled settings.passwords later again =
      (.ok actual, left))
    (alike : Alike suite world later vault.database settings.passwords plan actual) :
    Foretold suite world later vault.database settings.passwords (.ok plan) (.ok actual)
      ((Verification.failures suite (plan.rotation.getD plan.encryptor) vault.database).mapError
        .checking)
      (Setup.run suite settings later again).1 := by
  obtain ⟨_, _, _, _, _, _, founded, database, _⟩ := reconcileFounded reconciling
  have tables (name : ProtectedTable) :
      left.database.table? name = vault.database.table? name := by
    rw [database, Database.tableOfWith, same]
  rw [alike.failures unopened unopenedLater, ← Verification.failuresSameTables tables]
  cases found : Verification.failures suite (actual.rotation.getD actual.encryptor)
      left.database with
  | error fault =>
    rw [Setup.runUnchecked reconciling found]
    exact .unchecked alike
  | ok unreadable =>
    cases due : actual.rotation with
    | none =>
      have unchanged : actual.changed = false := by simp [founded.changedTurns, due]
      rw [due, Option.getD_none] at found
      obtain ⟨setup, ran, planned, told⟩ := Setup.runResting reconciling due found
      rw [ran, ← told]
      exact .resting alike unchanged planned
    | some reader =>
      have changed : actual.changed = true := by simp [founded.changedTurns, due]
      rw [due, Option.getD_some] at found
      by_cases readable : unreadable = []
      · subst readable
        rcases Setup.runTurning reconciling calm accepted due found with
          ⟨setup, ran, planned⟩ | ⟨error, ran, unwritten⟩
        · rw [ran]
          exact .rotated alike changed planned
        · rw [ran]
          exact .unsealed alike changed due (unwritten.sameTables tables)
      · rw [Setup.runRefused reconciling due found readable]
        exact .refused alike changed readable

/-- A check writes nothing, and what it tells agrees with what a setup does that nobody stops. -/
theorem checkForetells (accepted : Password.Accepted settings.passwords)
    (draws : ∀ moment length, ∃ bytes, world.random moment length = some bytes)
    (calm : later.Calm)
    (seals : ∀ key (nonce : BytesOf nonceLength), ∃ canary,
      suite.sealWith key (some nonce) Canary.plaintext = .ok canary)
    (unopened : Unopened suite world vault.database settings.passwords)
    (unopenedLater : Unopened suite later vault.database settings.passwords)
    (same : again.database = vault.database) :
    (Check.run suite settings world vault).2.database = vault.database ∧
    (Check.run suite settings world vault).2.commits = vault.commits ∧
    Foretold suite world later vault.database settings.passwords
      (preview suite settings.enabled settings.passwords world vault).1
      (reconcile suite settings.enabled settings.passwords later again).1
      (Check.run suite settings world vault).1 (Setup.run suite settings later again).1 := by
  have plans := plansAlike draws ⟨calm.random, seals⟩ accepted settings.enabled same
  have idle := previewIdle suite settings.enabled settings.passwords world vault
  cases previewed : preview suite settings.enabled settings.passwords world vault with
  | mk told middle =>
    cases reconciling : reconcile suite settings.enabled settings.passwords later again with
    | mk answer left =>
      rw [previewed] at idle
      rw [previewed, reconciling] at plans
      cases plans with
      | failed =>
        rw [checkRefused previewed, Setup.run,
          Action.bindOfError (Action.mapErrorOfError reconciling)]
        exact ⟨idle.1, idle.2, .unreconciled⟩
      | went alike =>
        rw [checkPlanned previewed]
        exact ⟨idle.1, idle.2,
          setupForetold calm accepted unopened unopenedLater same reconciling alike⟩

end Foresight

namespace GarbledWorkspace

open FirstSetup

def database : Database :=
  Database.empty.setTable .workspaces
    (some (Table.empty.upsert "workspace" (.ofColumn (.blob (.ofText "garbled")))))

def later : Surroundings :=
  { world with random := fun _ length => some ⟨List.replicate length 1, List.length_replicate⟩ }

theorem laterCalm : later.Calm := ⟨fun _ _ => ⟨_, rfl⟩, fun _ => rfl⟩

theorem garbled (label : String) (key : Key) :
    (Encryptor.aead label key).openColumn .standard (.blob (.ofText "garbled")) =
      .error .malformed := rfl

theorem garbledUnopened (made : Surroundings) (entries : List Password) :
    Unopened .standard made database entries := by
  rintro label key _ name value ⟨stored, row, table, place, held⟩ text opened
  cases name with
  | workspaces =>
    cases table
    cases List.mem_singleton.1 place
    cases held
    rw [garbled] at opened
    cases opened
  | instanceDetails | bindingCredentials | requestDetails =>
    cases table
    cases place

theorem checkTells : ∃ plan entry cause,
    (preview .standard settings.enabled settings.passwords world (.ofDatabase database)).1 =
      .ok plan ∧ plan.changed = true ∧
    (Check.run .standard settings world (.ofDatabase database)).1 =
      .ok [⟨.workspaces, entry, cause⟩] :=
  ⟨_, _, _, rfl, rfl, rfl⟩

theorem checkForetellsRefusal : ∃ entry cause,
    (Check.run .standard settings world (.ofDatabase database)).1 =
      .ok [⟨.workspaces, entry, cause⟩] ∧
    (Check.run .standard settings world (.ofDatabase database)).2.database = database ∧
    (Setup.run .standard settings later (.ofDatabase database)).1 =
      .error (.refused [⟨.workspaces, entry, cause⟩]) := by
  obtain ⟨plan, entry, cause, previewed, changed, told⟩ := checkTells
  have same : (Vault.ofDatabase database).database = (Vault.ofDatabase database).database := rfl
  obtain ⟨idle, _, foretold⟩ := Foresight.checkForetells accepted (fun _ _ => ⟨_, rfl⟩) laterCalm
    (CipherSuite.standardSeals Canary.plaintext (by decide))
    (garbledUnopened world _) (garbledUnopened later _) same
  refine ⟨entry, cause, told, idle, ?_⟩
  rw [told, previewed] at foretold
  generalize (reconcile .standard settings.enabled settings.passwords later
    (.ofDatabase database)).1 = reconciled at foretold
  generalize (Setup.run .standard settings later (.ofDatabase database)).1 = ran at foretold ⊢
  generalize unreadable : ([⟨.workspaces, entry, cause⟩] : List RecordError) = found at foretold ⊢
  cases foretold with
  | refused => rfl
  | rotated | unsealed => cases unreadable
  | resting alike unchanged => cases (alike.changed.trans unchanged).symm.trans changed

end GarbledWorkspace
end BrokerVault
