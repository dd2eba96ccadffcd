import BrokerVault.Database.Credentials
import BrokerVault.Proofs.Runs
import BrokerVault.Proofs.Tables

/-! What the operations on the stored credentials leave. A new one goes behind the others and is not
primary; moving the primary touches no salt and no canary; deleting takes the named rows alone. -/
namespace BrokerVault

namespace Database

def withCredentials (database : Database) (stored : Table Credential) : Database :=
  { database with credentials := some stored }

@[simp] theorem credentialsOfWith (database : Database) (stored : Table Credential) :
    (database.withCredentials stored).credentials = some stored := rfl

@[simp] theorem tableOfWith (database : Database) (stored : Table Credential)
    (name : ProtectedTable) : (database.withCredentials stored).table? name = database.table? name := by
  cases name <;> rfl

theorem withCredentialsSame {database : Database} {stored : Table Credential}
    (found : database.credentials = some stored) : database.withCredentials stored = database := by
  cases database
  cases found
  rfl

end Database

namespace Credentials

structure SameKey (row changed : Row Credential) : Prop where
  id : changed.id = row.id
  salt : changed.value.salt = row.value.salt
  canary : changed.value.canary = row.value.canary

theorem sameLabels {before after : Table Credential}
    (keys : List.Forall₂ SameKey before.rows after.rows) :
    after.rows.map (·.id) = before.rows.map (·.id) := by
  have ids : List.Forall₂ (fun id other => id = other) (after.rows.map (·.id))
      (before.rows.map (·.id)) :=
    List.forall₂_map_left_iff.2 (List.forall₂_map_right_iff.2 (keys.flip.imp fun _ _ key => key.id))
  exact List.forall₂_eq_eq_eq ▸ ids

def wanted (label : String) : List String := if label.isEmpty then [] else [label]

theorem wantedNone : wanted "" = [] := by decide

variable {world : Surroundings} {vault after : Vault} {stored : Table Credential}

theorem tableRun : table world vault =
    ((vault.database.credentialsTable).mapError .database, vault) := rfl

theorem tableFound (found : vault.database.credentials = some stored) :
    table world vault = (.ok stored, vault) := by
  rw [tableRun, Database.credentialsTable, found]
  rfl

theorem tableMissing (absent : vault.database.credentials = none) :
    table world vault = (.error (.database (.missingTable credentialTable)), vault) := by
  rw [tableRun, Database.credentialsTable, absent]
  rfl

theorem loadFound (found : vault.database.credentials = some stored) :
    load world vault = (.ok stored.rows, vault) := by
  rw [load, Action.bindOfOk (tableFound found), Action.pureRun]

theorem loadMissing (absent : vault.database.credentials = none) :
    load world vault = (.error (.database (.missingTable credentialTable)), vault) := by
  rw [load, Action.bindOfError (tableMissing absent)]

theorem loadRan {result : Except StoreError (List (Row Credential))}
    (ran : load world vault = (result, after)) :
    after = vault ∧ ∀ rows, result = .ok rows →
      ∃ stored, vault.database.credentials = some stored ∧ rows = stored.rows := by
  cases found : vault.database.credentials with
  | none =>
    rw [loadMissing found] at ran
    cases ran
    exact ⟨rfl, fun _ wrong => nomatch wrong⟩
  | some stored =>
    rw [loadFound found] at ran
    cases ran
    exact ⟨rfl, fun _ same => ⟨stored, rfl, (Except.ok.inj same).symm⟩⟩

theorem writeRun (changed : Table Credential) :
    write changed world vault = (.ok (), { vault with
      database := vault.database.withCredentials changed
      commits := vault.database :: vault.commits }) := rfl

theorem saveNewFound (world : Surroundings) (vault : Vault) {label : String} (salt canary : Bytes)
    (found : vault.database.credentials = some stored) (new : stored.find? label = none) :
    ∃ longer, saveNew label salt canary world vault = (.ok (), {
        database := vault.database.withCredentials longer
        commits := vault.database :: vault.commits
        moment := vault.moment + 1 }) ∧
      longer.rows = stored.rows ++ [⟨stored.nextRowid, label, salt, canary, false,
        world.clock vault.moment, world.clock vault.moment⟩] := by
  obtain ⟨longer, appended, rows⟩ :=
    Table.appendRows new ⟨salt, canary, false, world.clock vault.moment, world.clock vault.moment⟩
  refine ⟨longer, ?_, rows⟩
  have looked : table world { vault with moment := vault.moment + 1 } = _ := tableFound found
  rw [saveNew, Action.bindNow, Action.bindOfOk looked]
  simp only [appended, writeRun]

theorem saveNewTaken (world : Surroundings) (vault : Vault) {label : String} (salt canary : Bytes)
    {row : Row Credential} (found : vault.database.credentials = some stored)
    (taken : stored.find? label = some row) :
    saveNew label salt canary world vault =
      (.error (.database (.duplicate credentialTable)), { vault with moment := vault.moment + 1 }) := by
  have looked : table world { vault with moment := vault.moment + 1 } = _ := tableFound found
  rw [saveNew, Action.bindNow, Action.bindOfOk looked]
  simp only [Table.appendTaken taken, Action.failRun]

theorem primaryLabelsAre (stored : Table Credential) {row : Row Credential}
    (place : row ∈ stored.rows) :
    row.value.primary = true ↔ row.id ∈ primaryLabels stored := by
  simp only [primaryLabels, List.mem_map, List.mem_filter]
  constructor
  · exact fun primary => ⟨row, ⟨place, primary⟩, rfl⟩
  · rintro ⟨other, ⟨found, primary⟩, same⟩
    have alike := Table.findOfMem found
    rw [same, Table.findOfMem place] at alike
    cases alike
    exact primary

theorem flagsOf (stored : Table Credential) :
    stored.rows.map (fun row => (row.id, row.value.primary)) =
      (stored.rows.map (·.id)).map fun label => (label, decide (label ∈ primaryLabels stored)) := by
  rw [List.map_map]
  refine List.map_congr_left fun row place => ?_
  have same : row.value.primary = decide (row.id ∈ primaryLabels stored) := by
    rw [Bool.eq_iff_iff, primaryLabelsAre stored place, decide_eq_true_eq]
  rw [Function.comp_apply, ← same]

theorem withPrimarySameKey (stored : Table Credential) (label : String) (now : Timestamp) :
    List.Forall₂ SameKey stored.rows (withPrimary stored label now).rows := by
  have demoted : List.Forall₂ SameKey stored.rows (withPrimary stored "" now).rows := by
    refine List.forall₂_map_right_iff.2 (List.forall₂_same.2 fun row _ => ?_)
    by_cases primary : row.value.primary = true <;>
      simp only [primary, ↓reduceIte, Bool.false_eq_true] <;> exact ⟨rfl, rfl, rfl⟩
  by_cases empty : label.isEmpty = true
  · rwa [String.isEmpty_iff.1 empty]
  · rw [withPrimary]
    simp only [empty, Bool.false_eq_true, ↓reduceIte]
    refine List.forall₂_map_right_iff.2 (demoted.imp fun row changed same => ?_)
    by_cases chosen : changed.id = label
    · simp only [chosen, ↓reduceIte]
      exact ⟨chosen ▸ same.id, same.salt, same.canary⟩
    · simp only [chosen, ↓reduceIte]
      exact same

theorem onlyPrimary {label : String} {labels : List String} (held : isOnlyPrimary label labels = true)
    (named : "" ∉ labels) : labels = wanted label := by
  cases labels with
  | nil => simp only [isOnlyPrimary] at held; simp only [wanted, held, ↓reduceIte]
  | cons only rest =>
    cases rest with
    | nil =>
      simp only [isOnlyPrimary, beq_iff_eq] at held
      have filled : label.isEmpty = false := by
        cases empty : label.isEmpty with
        | false => rfl
        | true => simp [held, String.isEmpty_iff.1 empty] at named
      simp only [wanted, filled, held, Bool.false_eq_true, ↓reduceIte]
    | cons => simp [isOnlyPrimary] at held

theorem filterById {row : Row Credential} (place : row ∈ stored.rows) :
    stored.rows.filter (·.id = row.id) = [row] := by
  obtain ⟨front, back, layout⟩ := List.append_of_mem place
  obtain ⟨ahead, behind⟩ := Table.othersDiffer layout
  rw [layout, List.filter_append, List.filter_cons_of_pos (by simp),
    List.filter_eq_nil_iff.2 (by simpa using ahead), List.filter_eq_nil_iff.2 (by simpa using behind),
    List.nil_append]

theorem noneDemoted (stored : Table Credential) (now : Timestamp) :
    ∀ row ∈ (withPrimary stored "" now).rows, row.value.primary = false := by
  intro changed place
  obtain ⟨row, _, rfl⟩ := List.mem_map.1 place
  by_cases primary : row.value.primary = true <;> simp [primary]

theorem withPrimaryLabels {label : String} (now : Timestamp)
    (known : label.isEmpty = true ∨ (stored.find? label).isSome) :
    primaryLabels (withPrimary stored label now) = wanted label := by
  have demoted := noneDemoted stored now
  have sameKeys := withPrimarySameKey stored "" now
  by_cases empty : label.isEmpty = true
  · rw [String.isEmpty_iff.1 empty, primaryLabels,
      List.filter_eq_nil_iff.2 fun row place => by simp [demoted row place]]
    rfl
  · obtain ⟨row, found⟩ := Option.isSome_iff_exists.1 (known.resolve_left empty)
    obtain ⟨place, same⟩ := Table.findSome found
    obtain ⟨changed, changedPlace, key⟩ := pairedLeft sameKeys place
    have carries : changed.id = label := key.id.trans same
    let choose (row : Row Credential) : Credential :=
      if row.id = label then { row.value with primary := true, updated := now } else row.value
    have chosen : (withPrimary stored label now).rows =
        (withPrimary stored "" now).rows.map fun row => { row with value := choose row } := by
      simp only [withPrimary, if_neg empty]
      rfl
    have primaries : ∀ row ∈ (withPrimary stored "" now).rows,
        (choose row).primary = decide (row.id = changed.id) := by
      intro row place
      by_cases here : row.id = label
      · simp [choose, here, carries]
      · simp [choose, here, carries, demoted row place]
    calc primaryLabels (withPrimary stored label now)
      _ = ((withPrimary stored "" now).rows.filter fun row => (choose row).primary).map (·.id) := by
        rw [primaryLabels, chosen, List.filter_map, List.map_map]
        rfl
      _ = [changed.id] := by
        rw [List.filter_congr primaries, filterById changedPlace]
        rfl
      _ = wanted label := by simp only [wanted, if_neg empty, carries]

theorem saveNewFails {label : String} {salt canary : Bytes} {error : StoreError}
    (ran : saveNew label salt canary world vault = (.error error, after)) :
    after.database = vault.database := by
  rw [saveNew, Action.bindNow] at ran
  rcases Action.bindRan ran with ⟨stored, middle, looked, rest⟩ | ⟨_, failed, _⟩
  · obtain ⟨_, rfl⟩ := Prod.mk.inj looked
    cases appended : stored.append? label
        ⟨salt, canary, false, world.clock vault.moment, world.clock vault.moment⟩ with
    | none =>
      simp only [appended] at rest
      cases rest
      rfl
    | some longer =>
      simp only [appended] at rest
      cases rest
  · obtain ⟨_, rfl⟩ := Prod.mk.inj failed
    rfl

def labelNamed (name : String) : String := if name = "none" then "" else name

inductive MovedPrimary (vault : Vault) (stored : Table Credential) (label : String) :
    Except StoreError Unit → Vault → Prop where
  | held (only : isOnlyPrimary label (primaryLabels stored) = true) :
      MovedPrimary vault stored label (.ok ()) vault
  | moved {after now} (known : label.isEmpty = true ∨ (stored.find? label).isSome)
      (database : after.database = vault.database.withCredentials (withPrimary stored label now))
      (commits : after.commits = vault.database :: vault.commits) :
      MovedPrimary vault stored label (.ok ()) after
  | unknown {error after} (database : after.database = vault.database)
      (commits : after.commits = vault.commits) :
      MovedPrimary vault stored label (.error error) after

theorem updatePrimaryRun (world : Surroundings) (name : String)
    (found : vault.database.credentials = some stored) :
    updatePrimary name world vault =
      if isOnlyPrimary (labelNamed name) (primaryLabels stored) then (.ok (), vault)
      else if (labelNamed name).isEmpty ∨ (stored.find? (labelNamed name)).isSome then (.ok (), {
        database := vault.database.withCredentials
          (withPrimary stored (labelNamed name) (world.clock vault.moment))
        commits := vault.database :: vault.commits
        moment := vault.moment + 1 })
      else (.error (.unknownLabel (labelNamed name)), { vault with moment := vault.moment + 1 }) := by
  rw [updatePrimary, ← labelNamed, Action.bindOfOk (tableFound found)]
  split
  · rfl
  · rw [Action.bindNow]
    simp only [Bool.or_eq_true]
    split <;> rfl

theorem updatePrimaryMoved {name : String} {result : Except StoreError Unit}
    (found : vault.database.credentials = some stored)
    (ran : updatePrimary name world vault = (result, after)) :
    MovedPrimary vault stored (labelNamed name) result after := by
  rw [updatePrimaryRun world name found] at ran
  split at ran
  · rename_i held
    cases ran
    exact .held held
  · split at ran
    · rename_i known
      cases ran
      exact .moved known rfl rfl
    · cases ran
      exact .unknown rfl rfl

theorem updatePrimaryRan {name : String} {result : Except StoreError Unit}
    (found : vault.database.credentials = some stored) (named : "" ∉ primaryLabels stored)
    (reserved : name ≠ "none") (ran : updatePrimary name world vault = (result, after)) :
    ∃ changed, List.Forall₂ SameKey stored.rows changed.rows ∧
      after.database = vault.database.withCredentials changed ∧
      (∀ Good, Good vault.database → Good after.database → vault.Leads Good after) ∧
      (result = .ok () → primaryLabels changed = wanted name) ∧
      ∀ error, result = .error error → changed = stored := by
  have unchanged : List.Forall₂ SameKey stored.rows stored.rows :=
    List.forall₂_same.2 fun _ _ => ⟨rfl, rfl, rfl⟩
  have same := Database.withCredentialsSame found
  have moved := updatePrimaryMoved found ran
  rw [labelNamed, if_neg reserved] at moved
  cases moved with
  | held only =>
    exact ⟨stored, unchanged, same.symm, fun _ good _ => Vault.leadsSame good rfl rfl,
      fun _ => onlyPrimary only named, fun _ wrong => nomatch wrong⟩
  | moved known database commits =>
    exact ⟨_, withPrimarySameKey _ _ _, database,
      fun _ good new => Vault.leadsCommit good new rfl commits,
      fun _ => withPrimaryLabels _ known, fun _ wrong => nomatch wrong⟩
  | unknown database commits =>
    exact ⟨stored, unchanged, database.trans same.symm,
      fun _ good _ => Vault.leadsSame good database commits, fun wrong => (nomatch wrong),
      fun _ _ => rfl⟩

theorem updatePrimaryFails {name : String} {error : StoreError}
    (ran : updatePrimary name world vault = (.error error, after)) :
    after.database = vault.database := by
  cases found : vault.database.credentials with
  | none =>
    rw [updatePrimary, Action.bindOfError (tableMissing found)] at ran
    cases ran
    rfl
  | some stored =>
    cases updatePrimaryMoved found ran with
    | unknown database => exact database

theorem updatePrimaryOk (world : Surroundings) {name : String}
    (found : vault.database.credentials = some stored)
    (reserved : name ≠ "none") (known : name.isEmpty = true ∨ (stored.find? name).isSome) :
    ∃ after, updatePrimary name world vault = (.ok (), after) := by
  rw [updatePrimaryRun world name found, labelNamed, if_neg reserved, if_pos known]
  split <;> exact ⟨_, rfl⟩

theorem deleteFound {labels : List String} (found : vault.database.credentials = some stored)
    (some : labels ≠ []) :
    deleteByLabels labels world vault = (.ok (), { vault with
      database := vault.database.withCredentials (stored.keep fun row => !labels.contains row.id)
      commits := vault.database :: vault.commits }) := by
  have filled : labels.isEmpty = false := by simpa using some
  rw [deleteByLabels, filled, if_neg Bool.false_ne_true, Action.bindOfOk (tableFound found)]
  rfl

theorem deleteByLabelsFound (world : Surroundings) (labels : List String)
    (found : vault.database.credentials = some stored) :
    ∃ after, deleteByLabels labels world vault = (.ok (), after) ∧
      after.database =
        vault.database.withCredentials (stored.keep fun row => !labels.contains row.id) := by
  by_cases none : labels = []
  · subst none
    have all : stored.keep (fun row => !([] : List String).contains row.id) = stored :=
      Table.sameRows (by simp [Table.keep])
    rw [all, Database.withCredentialsSame found]
    exact ⟨vault, rfl, rfl⟩
  · exact ⟨_, deleteFound found none, rfl⟩

theorem deleteByLabelsFails {labels : List String} {error : StoreError}
    (ran : deleteByLabels labels world vault = (.error error, after)) :
    after.database = vault.database := by
  rw [deleteByLabels] at ran
  split at ran
  · cases ran
  · cases found : vault.database.credentials with
    | none =>
      rw [Action.bindOfError (tableMissing found)] at ran
      cases ran
      rfl
    | some stored =>
      rw [Action.bindOfOk (tableFound found)] at ran
      cases ran

end Credentials
end BrokerVault
