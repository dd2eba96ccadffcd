import BrokerVault.Proofs.Completion
import BrokerVault.Proofs.Ledger.Avoidance
import BrokerVault.Proofs.Ledger.Working

/-! The stored credentials over a history of calls. Whatever was called, in whatever order and with
whatever outcome, the journal of the calls says what is stored: the credentials that were saved and
not removed since, as they were saved and in that order, and as the only primary the label that was
promoted last. -/
namespace BrokerVault.Ledger

open Reconciliation

inductive Call where
  | saveNew (label : String) (salt canary : Bytes)
  | updatePrimary (name : String)
  | deleteByLabels (labels : List String)
  | reconcile (enabled : Bool) (entries : List Password)
  | preview (enabled : Bool) (entries : List Password)
  | setup (settings : Settings)

variable {suite : CipherSuite} {world : Surroundings} {vault after : Vault} {journal : List Entry}
  {stored : Table Credential}

def Call.run (suite : CipherSuite) (call : Call) (world : Surroundings) (vault : Vault) : Vault :=
  match call with
  | saveNew label salt canary => (Credentials.saveNew label salt canary world vault).2
  | updatePrimary name => (Credentials.updatePrimary name world vault).2
  | deleteByLabels labels => (Credentials.deleteByLabels labels world vault).2
  | reconcile enabled entries => (Reconciliation.reconcile suite enabled entries world vault).2
  | preview enabled entries => (Reconciliation.preview suite enabled entries world vault).2
  | setup settings => (Setup.run suite settings world vault).2

def replay (suite : CipherSuite) : List (Surroundings × Call) → Vault → Vault
  | [], vault => vault
  | (world, call) :: later, vault => replay suite later (call.run suite world vault)

theorem Call.works (suite : CipherSuite) (call : Call) (world : Surroundings) (vault : Vault) :
    ∃ journal, Works vault journal (call.run suite world vault) := by
  cases call with
  | saveNew label salt canary => exact Journals.saveNew label salt canary world vault
  | updatePrimary name => exact Journals.updatePrimary name world vault
  | deleteByLabels labels => exact Journals.deleteByLabels labels world vault
  | reconcile enabled entries => exact Journals.reconcileWith suite .save enabled entries world vault
  | preview enabled entries => exact Journals.reconcileWith suite .preview enabled entries world vault
  | setup settings => exact Journals.setup suite settings world vault

theorem replayWorks (history : List (Surroundings × Call)) (vault : Vault) :
    ∃ journal, Works vault journal (replay suite history vault) := by
  induction history generalizing vault with
  | nil => exact ⟨[], .done⟩
  | cons first later ih =>
    obtain ⟨journal, works⟩ := first.2.works suite first.1 vault
    obtain ⟨more, onward⟩ := ih (first.2.run suite first.1 vault)
    exact ⟨journal ++ more, works.trans onward⟩

structure Matches (journal : List Entry) (stored : Table Credential) : Prop where
  marks : stored.rows.map Mark.ofRow = lasting journal
  primary : ∀ label, label ∈ Credentials.primaryLabels stored ↔ Promoted journal label
  single : (Credentials.primaryLabels stored).length ≤ 1

theorem matchesEmpty : Matches [] .empty :=
  ⟨rfl, fun label => ⟨fun wrong => (nomatch wrong), fun promoted => (promotedNil label promoted).elim⟩,
    Nat.zero_le 1⟩

theorem mapValuesMarks (stored : Table Credential) {change : Row Credential → Credential}
    (kept : ∀ row, Mark.ofRow { row with value := change row } = Mark.ofRow row) :
    (stored.mapValues change).rows.map Mark.ofRow = stored.rows.map Mark.ofRow := by
  rw [Table.mapValues, List.map_map]
  exact List.map_congr_left fun row _ => kept row

theorem withPrimaryMarks (stored : Table Credential) (label : String) (now : Timestamp) :
    (Credentials.withPrimary stored label now).rows.map Mark.ofRow = stored.rows.map Mark.ofRow := by
  have demoted (row : Row Credential) : Mark.ofRow { row with
      value := if row.value.primary then { row.value with primary := false, updated := now }
        else row.value } = Mark.ofRow row := by
    cases row.value.primary <;> simp [Mark.ofRow]
  have promoted (row : Row Credential) : Mark.ofRow { row with
      value := if row.id = label then { row.value with primary := true, updated := now }
        else row.value } = Mark.ofRow row := by
    by_cases here : row.id = label <;> simp [Mark.ofRow, here]
  rw [Credentials.withPrimary]
  split
  · exact mapValuesMarks stored demoted
  · exact (mapValuesMarks _ promoted).trans (mapValuesMarks stored demoted)

theorem wantedLabel {label other : String} :
    other ∈ Credentials.wanted label ↔ other ≠ "" ∧ label = other := by
  rw [Credentials.wanted]
  by_cases empty : label = ""
  · subst empty
    simp
  · rw [if_neg (by simpa using empty), List.mem_singleton]
    constructor
    · rintro rfl
      exact ⟨empty, rfl⟩
    · rintro ⟨_, rfl⟩
      rfl

theorem wantedSingle (label : String) : (Credentials.wanted label).length ≤ 1 := by
  rw [Credentials.wanted]
  split <;> simp

namespace Matches

variable (held : Matches journal stored) (found : vault.database.credentials = some stored)
include held found

theorem saved {label : String} {salt canary : Bytes}
    (ran : Credentials.saveNew label salt canary world vault = (.ok (), after)) :
    ∃ longer, after.database.credentials = some longer ∧
      Matches (journal ++ [.saved ⟨label, salt, canary, world.clock vault.moment⟩]) longer := by
  cases taken : stored.find? label with
  | some row => cases ran.symm.trans (Credentials.saveNewTaken world vault salt canary found taken)
  | none =>
    obtain ⟨longer, saved, rows⟩ := Credentials.saveNewFound world vault salt canary found taken
    cases ran.symm.trans saved
    have primaries : Credentials.primaryLabels longer = Credentials.primaryLabels stored := by
      rw [Credentials.primaryLabels, rows, List.filter_append, List.map_append]
      exact List.append_nil _
    refine ⟨longer, rfl, ?_, fun other => ?_, primaries ▸ held.single⟩
    · rw [rows, List.map_append, held.marks, lastingAppend]
      refine congrArg (· ++ _) (List.filter_eq_self.2 fun _ _ => rfl).symm
    · rw [primaries, held.primary, promotedAppend]
      simp [Entry.spares]

theorem promoted {name : String}
    (ran : Credentials.updatePrimary name world vault = (.ok (), after)) :
    ∃ changed, after.database.credentials = some changed ∧
      Matches (journal ++ [.promoted (Credentials.labelNamed name)]) changed := by
  have named : "" ∉ Credentials.primaryLabels stored := fun unnamed =>
    ((held.primary "").1 unnamed).1 rfl
  have moved : ∃ changed, after.database.credentials = some changed ∧
      changed.rows.map Mark.ofRow = stored.rows.map Mark.ofRow ∧
      Credentials.primaryLabels changed = Credentials.wanted (Credentials.labelNamed name) := by
    cases Credentials.updatePrimaryMoved found ran with
    | held only => exact ⟨stored, found, rfl, Credentials.onlyPrimary only named⟩
    | moved known database =>
      exact ⟨_, by rw [database, Database.credentialsOfWith], withPrimaryMarks _ _ _,
        Credentials.withPrimaryLabels _ known⟩
  obtain ⟨changed, left, marks, primaries⟩ := moved
  refine ⟨changed, left, ?_, fun other => ?_, primaries ▸ wantedSingle _⟩
  · rw [marks, held.marks, lastingAppend]
    simp [Entry.removes, Entry.mark?]
  · rw [primaries, wantedLabel, promotedAppend]
    simp [Entry.spares]

theorem removed {labels : List String}
    (ran : Credentials.deleteByLabels labels world vault = (.ok (), after)) :
    ∃ left, after.database.credentials = some left ∧ Matches (journal ++ [.removed labels]) left := by
  obtain ⟨again, deleted, database⟩ := Credentials.deleteByLabelsFound world labels found
  cases ran.symm.trans deleted
  have primaries : Credentials.primaryLabels (stored.keep fun row => !labels.contains row.id) =
      (Credentials.primaryLabels stored).filter fun label => !labels.contains label := by
    simp only [Credentials.primaryLabels, Table.keep, List.filter_map, List.filter_filter]
    refine congrArg _ (List.filter_congr fun row _ => ?_)
    rw [Function.comp_apply, Bool.and_comm]
  refine ⟨_, by rw [database, Database.credentialsOfWith], ?_, fun other => ?_, ?_⟩
  · rw [lastingAppend, ← held.marks, Table.keep, List.filter_map]
    exact (List.append_nil _).symm
  · rw [primaries, List.mem_filter, held.primary, promotedAppend]
    simp [Entry.spares]
  · rw [primaries]
    exact Nat.le_trans (List.length_filter_le _ _) held.single

end Matches

theorem Works.matches {earlier : List Entry} (works : Works vault journal after)
    (held : Matches earlier stored) (found : vault.database.credentials = some stored) :
    ∃ left, after.database.credentials = some left ∧ Matches (earlier ++ journal) left := by
  -- On the operations, each of which adds its entry to those before.
  induction works generalizing earlier stored with
  | done => exact ⟨stored, found, by rwa [List.append_nil]⟩
  | saved ran _ ih =>
    obtain ⟨longer, left, held⟩ := held.saved found ran
    rw [List.append_cons]
    exact ih held left
  | promoted ran _ ih =>
    obtain ⟨changed, left, held⟩ := held.promoted found ran
    rw [List.append_cons]
    exact ih held left
  | removed ran _ ih =>
    obtain ⟨fewer, left, held⟩ := held.removed found ran
    rw [List.append_cons]
    exact ih held left
  | elsewhere same _ ih => exact ih held (same.trans found)

theorem Matches.alone (held : Matches journal stored) :
    ∃ sole, solePrimary? stored.rows = .ok sole := by
  have single := held.single
  cases labels : Credentials.primaryLabels stored with
  | nil => exact ⟨none, solePrimaryOk.2 labels⟩
  | cons label others =>
    rw [labels, List.length_cons] at single
    have none : others = [] := List.length_eq_zero_iff.1 (by omega)
    exact ⟨some label, solePrimaryOk.2 (labels.trans (none ▸ rfl))⟩

structure Kept (suite : CipherSuite) (journal : List Entry) (vault : Vault)
    (stored : Table Credential) : Prop where
  found : vault.database.credentials = some stored
  labels : (stored.rows.map (·.id)).Nodup
  single : (stored.rows.filter (·.value.primary)).length ≤ 1
  marks : stored.rows.map Mark.ofRow = lasting journal
  primary : ∀ row ∈ stored.rows, row.value.primary = true ↔ Promoted journal row.id
  loads : ∀ world, Credentials.load world vault = (.ok stored.rows, vault)
  deletes : ∀ world labels, ∃ after left,
    Credentials.deleteByLabels labels world vault = (.ok (), after) ∧
    after.database = vault.database.withCredentials left ∧
    left.rows = stored.rows.filter fun row => !labels.contains row.id
  reconciles : ∀ mode world enabled entries,
    (reconcileWith suite mode enabled entries world vault).1 ≠ .error .severalPrimaries
  setsUp : ∀ world settings,
    (Setup.run suite settings world vault).1 ≠ .error (.reconciling .severalPrimaries)

theorem Matches.kept (held : Matches journal stored)
    (found : vault.database.credentials = some stored) : Kept suite journal vault stored := by
  obtain ⟨sole, alone⟩ := held.alone
  have reconciling (mode : Mode) (world : Surroundings) (enabled : Bool) (entries : List Password) :
      (reconcileWith suite mode enabled entries world vault).1 ≠ .error .severalPrimaries := by
    have given : OfGiven .severalPrimaries := trivial
    exact reconcilingAvoids given found (alone ▸ nofun)
      (fun entry salt _ => deriveForAlone suite entry salt) mode enabled world
  refine ⟨found, ?_, ?_, held.marks, fun row place => ?_, fun world => Credentials.loadFound found,
    fun world labels => ?_, reconciling, fun world settings => setupAvoids (reconciling _ _ _ _)⟩
  · exact List.pairwise_map.2 stored.distinct
  · have single := held.single
    rwa [Credentials.primaryLabels, List.length_map] at single
  · rw [Credentials.primaryLabelsAre stored place, held.primary]
  · obtain ⟨after, deleted, database⟩ := Credentials.deleteByLabelsFound world labels found
    exact ⟨after, _, deleted, database, rfl⟩

/-- Every history is made of the three operations on the credentials, and after any of them the store
is what the journal says. -/
theorem historyKeepsLedger {start : Database} (empty : start.credentials = some .empty) :
    (∀ history, ∃ journal,
      Works (.ofDatabase start) journal (replay suite history (.ofDatabase start))) ∧
    ∀ journal vault, Works (.ofDatabase start) journal vault →
      ∃ stored, Kept suite journal vault stored := by
  refine ⟨fun history => replayWorks history _, fun journal vault works => ?_⟩
  obtain ⟨stored, found, held⟩ := works.matches matchesEmpty empty
  rw [List.nil_append] at held
  exact ⟨stored, held.kept found⟩

end BrokerVault.Ledger

/-! A label that is made the primary, removed, and saved again behind another. -/
namespace BrokerVault.Reinserted

open Ledger

def first (canary : UInt8) : Mark := ⟨"first", [], [canary], default⟩

def other : Mark := ⟨"other", [], [], default⟩

def calls : List Call :=
  [.saveNew "first" [] [0], .saveNew "other" [] [], .updatePrimary "first",
    .deleteByLabels ["first"], .saveNew "other" [1] [1], .saveNew "first" [] [1]]

def journal : List Entry :=
  [.saved (first 0), .saved other, .promoted "first", .removed ["first"], .saved (first 1)]

def after (calls : List Call) : Vault :=
  replay .standard (calls.map fun call => (FirstSetup.world, call)) (.ofDatabase .empty)

theorem went (action : Action StoreError Unit) (world : Surroundings) (vault : Vault)
    (ok : (action world vault).1 = .ok ()) :
    action world vault = (.ok (), (action world vault).2) := Prod.ext ok rfl

theorem journaled : Works (.ofDatabase .empty) journal (after calls) := by
  let world := FirstSetup.world
  refine .saved (went (Credentials.saveNew "first" [] [0]) world _ rfl) ?_
  refine .saved (went (Credentials.saveNew "other" [] []) world _ rfl) ?_
  refine .promoted (went (Credentials.updatePrimary "first") world _ rfl) ?_
  refine .removed (went (Credentials.deleteByLabels ["first"]) world _ rfl) ?_
  -- "other" is there already, so saving it again is refused and nothing is journaled.
  have refused : (after (calls.take 5)).database.credentials =
      (after (calls.take 4)).database.credentials := rfl
  refine .elsewhere refused ?_
  exact .saved (went (Credentials.saveNew "first" [] [1]) world _ rfl) .done

theorem nonePromoted (label : String) : ¬Promoted journal label := by
  have layout : journal = [.saved (first 0), .saved other] ++ [.promoted "first"] ++
      [.removed ["first"]] ++ [.saved (first 1)] := rfl
  rw [layout, promotedAppend, promotedAppend, promotedAppend]
  rintro (⟨_, wrong⟩ | ⟨⟨_, wrong⟩ | ⟨⟨_, same⟩ | ⟨_, wrong⟩, spared⟩, _⟩)
  · cases wrong
  · cases wrong
  · cases same
    cases spared
  · cases wrong

theorem reinsertedBehind : ∃ stored, Kept .standard journal (after calls) stored ∧
    stored.rows.map Mark.ofRow = [other, first 1] ∧
    ∀ row ∈ stored.rows, row.value.primary = false := by
  obtain ⟨stored, kept⟩ := (historyKeepsLedger rfl).2 journal _ journaled
  refine ⟨stored, kept, kept.marks, fun row place => ?_⟩
  rw [Bool.eq_false_iff, ne_eq, kept.primary row place]
  exact nonePromoted row.id

end BrokerVault.Reinserted
