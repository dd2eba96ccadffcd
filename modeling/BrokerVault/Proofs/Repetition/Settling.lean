import BrokerVault.Proofs.Failure
import BrokerVault.Proofs.Primaries
import BrokerVault.Proofs.Repetition.Recall

/-! Setting up again with the same settings. A setup that went through has left every configured key
to be recalled, the configured primary alone, and nothing stale unless some value could not be read;
a setup that starts there finds nothing to do. -/
namespace BrokerVault

open Reconciliation

namespace Repetition

variable {suite : CipherSuite} {world : Surroundings} {settings : Settings} {vault after : Vault}
  {stored : Table Credential} {setup : Setup}

structure AtRest (suite : CipherSuite) (settings : Settings) (setup : Setup)
    (stored : Table Credential) : Prop where
  recalled : ∃ encryptors, List.Forall₂ (Recalls suite stored.rows) settings.passwords encryptors
  primaries : Credentials.primaryLabels stored = Credentials.wanted (primaryLabel settings.passwords)
  chosen : Chosen suite stored.rows settings.passwords setup.encryptor
  policy : settings.enabled = (settings.passwords.find? (·.primary)).isSome
  listed : setup.unreadable = [] → ∀ row ∈ stored.rows, row.id ∈ settings.passwords.map (·.label)

theorem setupRests (law : suite.OpensSealed) (accepted : Password.Accepted settings.passwords)
    (ran : Setup.run suite settings world vault = (.ok setup, after)) :
    ∃ stored, after.database.credentials = some stored ∧ AtRest suite settings setup stored := by
  cases Setup.runRan ran with
  | @checked plan middle rotated unreadable turnedVault removal _ _ reconciling turned _ removing
      answer =>
    obtain ⟨before, longer, sole, new, encryptors, _, founded, _, table⟩ :=
      reconcileFounded reconciling
    obtain ⟨changed, found, keys, primaries⟩ :=
      Setup.turnedPrimaries law accepted founded table turned
    obtain ⟨⟨deleted, rfl⟩, kept, removed, _⟩ := Setup.removeStaleRan found removing
    cases answer
    have recalled : List.Forall₂ (Recalls suite changed.rows) settings.passwords encryptors :=
      (founded.enrolled.recalled law fun row place => founded.rows ▸ place).imp
        fun _ _ recalls => recalls.sameKey keys
    have chosen := founded.chosen.sameKey keys
    by_cases readable : unreadable = []
    · -- The configured rows are among those that are kept, and they are all of them.
      have left : ∀ row ∈ changed.rows, row.id ∈ settings.passwords.map (·.label) →
          row ∈ (changed.keep fun row => !plan.stale.contains row.id).rows := by
        intro row place configured
        have fresh := ((founded.labels row.id).2 configured).2
        exact List.mem_filter.2 ⟨place, by simpa using fresh⟩
      refine ⟨_, by rw [removed readable, Database.credentialsOfWith], ?_⟩
      refine ⟨⟨encryptors, (pairedWithin recalled).imp ?_⟩, ?_, chosen.among left, founded.policy, ?_⟩
      · rintro entry encryptor ⟨configured, recalls⟩
        exact recalls.among fun row place label =>
          left row place (List.mem_map.2 ⟨entry, configured, label.symm⟩)
      · rw [Credentials.primaryLabels, Setup.primariesFresh accepted founded primaries, ← primaries,
          Credentials.primaryLabels]
      · intro _ row place
        exact (Setup.labelsLeft founded keys row.id).1 (List.mem_map.2 ⟨row, place, rfl⟩)
    · exact ⟨changed, by rw [kept readable, found], ⟨encryptors, recalled⟩, primaries, chosen,
        founded.policy, fun none => absurd none readable⟩

theorem AtRest.sole (rests : AtRest suite settings setup stored)
    (accepted : Password.Accepted settings.passwords) :
    solePrimary? stored.rows = .ok ((settings.passwords.find? (·.primary)).map (·.label)) := by
  rw [solePrimaryOk, ← wantedList accepted, ← rests.primaries, Credentials.primaryLabels]

theorem AtRest.reconciled (rests : AtRest suite settings setup stored)
    (accepted : Password.Accepted settings.passwords) (world : Surroundings)
    (found : vault.database.credentials = some stored) :
    ∃ encryptors plan,
      reconcile suite settings.enabled settings.passwords world vault = (.ok plan, vault) ∧
      Founded suite world settings stored stored
        ((settings.passwords.find? (·.primary)).map (·.label)) [] encryptors plan := by
  obtain ⟨encryptors, recalled⟩ := rests.recalled
  have enrolled : Enrolled suite world stored.rows settings.passwords [] encryptors :=
    enrolledRecalled recalled
  have alone := rests.sole accepted
  have supplied : ∀ label, (settings.passwords.find? (·.primary)).map (·.label) = some label →
      label ∈ settings.passwords.map (·.label) := by
    intro label same
    obtain ⟨entry, primary, rfl⟩ := Option.map_eq_some_iff.1 same
    exact List.mem_map.2 ⟨entry, List.mem_of_find?_eq_some primary, rfl⟩
  refine ⟨encryptors, _, ?_,
    foundedPlan alone enrolled (List.append_nil _).symm supplied rests.policy⟩
  rw [reconcile, reconcileRecalled recalled found alone]
  have length := enrolled.length
  rw [ofPolicyOk.2 ⟨zippedLabels length ▸ supplied, ?_, rfl⟩]
  rw [rests.policy, ← zippedPrimary length, Option.isSome_map]

theorem removeNothing {plan : Reconciliation} {unreadable : List RecordError}
    (none : unreadable = [] → plan.stale = []) :
    Setup.removeStale plan unreadable world vault = (.ok [], vault) := by
  rw [Setup.removeStale]
  split
  · rename_i both
    rw [Bool.and_eq_true, List.isEmpty_iff] at both
    simp [none both.1] at both
  · rfl

/-- A setup that went through has nothing left to do: the next one, whenever it runs, finds the same
and writes nothing. -/
theorem setupSettles (law : suite.OpensSealed) (accepted : Password.Accepted settings.passwords)
    (ran : Setup.run suite settings world vault = (.ok setup, after)) (later : Surroundings)
    (again : Vault) (same : again.database = after.database) :
    ∃ repeated, Setup.run suite settings later again = (.ok repeated, again) ∧
      repeated.reconciliation.changed = false ∧ repeated.rotated = none ∧ repeated.deleted = [] ∧
      repeated.encryptor = setup.encryptor ∧ repeated.unreadable = setup.unreadable := by
  obtain ⟨stored, found, rests⟩ := setupRests law accepted ran
  obtain ⟨encryptors, plan, reconciled, founded⟩ := rests.reconciled accepted later (same ▸ found)
  have unmoved : primaryLabel settings.passwords =
      ((settings.passwords.find? (·.primary)).map (·.label)).getD "" := rfl
  have resting : plan.rotation = none := by rw [founded.rotation, if_pos unmoved]
  have encryptor : plan.encryptor = setup.encryptor := founded.chosen.same rests.chosen
  have checking : verifyAll suite plan.encryptor later again = (.ok setup.unreadable, again) := by
    rw [verifyAllRun, encryptor, same, Setup.unreadableFound accepted ran]
  have none : setup.unreadable = [] → plan.stale = [] := by
    intro readable
    rw [founded.stale, List.filter_eq_nil_iff]
    intro label place
    obtain ⟨row, held, rfl⟩ := List.mem_map.1 place
    simpa using List.mem_map.1 (rests.listed readable row held)
  refine ⟨⟨plan.encryptor, plan, Option.none, setup.unreadable, []⟩, ?_, ?_, rfl, rfl, encryptor, rfl⟩
  · rw [Setup.run, Action.bindOfOk (Action.mapErrorOfOk reconciled)]
    simp only [resting]
    rw [Action.bindPure, Action.bindOfOk (Action.mapErrorOfOk checking),
      Action.bindOfOk (removeNothing none)]
    rfl
  · rw [founded.changed, unmoved]
    exact bne_self_eq_false _

end Repetition

namespace SecondKey

theorem secondKeySettles : ∃ canary bytes others setup count after repeated,
    Setup.run .standard settings world (.ofDatabase (database canary bytes others)) =
      (.ok setup, after) ∧
    setup.rotated = some count ∧
    Setup.run .standard settings { world with cancelled := fun _ => true } after =
      (.ok repeated, after) ∧
    repeated.reconciliation.changed = false ∧ repeated.rotated = none ∧ repeated.deleted = [] ∧
    repeated.encryptor = setup.encryptor ∧ repeated.unreadable = [] := by
  obtain ⟨canary, bytes, others, serves⟩ := standardServes
  obtain ⟨setup, after, ran, readable, count, rotated⟩ := goesThrough serves
  obtain ⟨repeated, again, unchanged, resting, none, encryptor, same⟩ :=
    Repetition.setupSettles CipherSuite.standardOpensSealed accepted ran
      { world with cancelled := fun _ => true } after rfl
  exact ⟨canary, bytes, others, setup, count, after, repeated, ran, rotated, again, unchanged,
    resting, none, encryptor, same.trans readable⟩

end SecondKey
end BrokerVault
