import BrokerVault.Proofs.Policy

/-! Reconciling where every label is known. A label whose stored canary opens gives the key that it
was given when it was stored, so a run over such labels draws nothing, stores nothing and makes the
plan of the run that stored them. -/
namespace BrokerVault.Reconciliation

def Recalls (suite : CipherSuite) (rows : List (Row Credential)) (entry : Password)
    (encryptor : Encryptor) : Prop :=
  ∃ row, rows.find? (·.id == entry.label) = some row ∧
    knownEncryptor suite entry row.value = .ok encryptor

variable {suite : CipherSuite} {world : Surroundings} {vault after : Vault}
  {table longer : Table Credential} {stored new : List (Row Credential)}
  {entries earlier rest : List Password} {encryptors : List Encryptor} {mode : Mode} {enabled : Bool}
  {sole : Option String}

theorem foundGrown (rows : longer.rows = table.rows ++ new) {label : String} {row : Row Credential}
    (found : table.rows.find? (·.id == label) = some row) :
    longer.rows.find? (·.id == label) = some row := by
  rw [rows, List.find?_append, found]
  rfl

theorem Enrolled.recalled (law : suite.OpensSealed)
    (enrolled : Enrolled suite world table.rows entries new encryptors)
    (within : ∀ row ∈ table.rows ++ new, row ∈ longer.rows) :
    List.Forall₂ (Recalls suite longer.rows) entries encryptors := by
  induction enrolled with
  | nil => exact .nil
  | @known entry row key text _ _ _ found derived opened _ ih =>
    obtain ⟨place, same⟩ := Table.findSome found
    have kept : longer.find? row.id = some row :=
      Table.findOfMem (within row (List.mem_append_left _ place))
    exact .cons ⟨row, same ▸ kept, knownEncryptorOpens derived opened⟩ (ih within)
  | @fresh entry row key _ later _ absent made _ ih =>
    have kept : longer.find? row.id = some row := Table.findOfMem (within row (by simp))
    obtain ⟨nonce, _, written⟩ := made.canary
    have recalled := knownEncryptorOpens made.derived (CipherSuite.openSealed law written)
    refine .cons ⟨row, made.id ▸ kept, recalled⟩ (ih fun other place => within other ?_)
    rw [List.mem_append, List.mem_cons]
    exact (List.mem_append.1 place).imp_right .inr

theorem Recalls.sameKey {entry : Password} {encryptor : Encryptor}
    (recalls : Recalls suite table.rows entry encryptor)
    (keys : List.Forall₂ Credentials.SameKey table.rows longer.rows) :
    Recalls suite longer.rows entry encryptor := by
  obtain ⟨row, found, known⟩ := recalls
  obtain ⟨place, label⟩ := Table.findSome found
  obtain ⟨changed, changedPlace, same⟩ := pairedLeft keys place
  have still : longer.find? changed.id = some changed := Table.findOfMem changedPlace
  refine ⟨changed, label ▸ same.id ▸ still, ?_⟩
  rw [← known, knownEncryptor, knownEncryptor, same.salt, same.canary]

theorem Recalls.among {entry : Password} {encryptor : Encryptor}
    (recalls : Recalls suite table.rows entry encryptor)
    (kept : ∀ row ∈ table.rows, row.id = entry.label → row ∈ longer.rows) :
    Recalls suite longer.rows entry encryptor := by
  obtain ⟨row, found, known⟩ := recalls
  obtain ⟨place, label⟩ := Table.findSome found
  have still : longer.find? row.id = some row := Table.findOfMem (kept row place label)
  exact ⟨row, label ▸ still, known⟩

theorem enrolledRecalled (recalled : List.Forall₂ (Recalls suite stored) entries encryptors) :
    Enrolled suite world stored entries [] encryptors := by
  induction recalled with
  | nil => exact .nil
  | cons head _ ih =>
    obtain ⟨row, found, known⟩ := head
    obtain ⟨key, text, derived, opened, rfl⟩ := knownEncryptorOk known
    exact .known found derived opened ih

theorem recalledAhead (recalled : List.Forall₂ (Recalls suite stored) earlier encryptors)
    {result : Except ReconcileError (List Encryptor)}
    (ran : encryptorsFor suite mode stored rest world vault = (result, after)) :
    encryptorsFor suite mode stored (earlier ++ rest) world vault =
      (result.map (encryptors ++ ·), after) := by
  induction recalled with
  | nil =>
    rw [List.nil_append, ran]
    cases result <;> rfl
  | @cons entry encryptor entries encryptors head _ ih =>
    obtain ⟨row, found, known⟩ := head
    rw [List.cons_append, encryptorsFor]
    simp only [found]
    rw [known, Action.bindOfOk rfl]
    cases result with
    | error error => rw [Action.bindOfError ih]; rfl
    | ok given => rw [Action.bindOfOk ih]; rfl

theorem recalledAll (recalled : List.Forall₂ (Recalls suite stored) entries encryptors)
    (mode : Mode) (world : Surroundings) (vault : Vault) :
    encryptorsFor suite mode stored entries world vault = (.ok encryptors, vault) := by
  have none : encryptorsFor suite mode stored [] world vault = (.ok [], vault) := rfl
  have ran := recalledAhead recalled none
  rw [List.append_nil] at ran
  rw [ran, Except.map, List.append_nil]

theorem reconcileRecalled (recalled : List.Forall₂ (Recalls suite table.rows) entries encryptors)
    (found : vault.database.credentials = some table) (alone : solePrimary? table.rows = .ok sole)
    (mode : Mode) (enabled : Bool) (world : Surroundings) :
    reconcileWith suite mode enabled entries world vault =
      (ofPolicy enabled table.rows sole (entries.zip encryptors), vault) := by
  rw [reconcileWithAlone mode enabled entries found alone,
    Action.bindOfOk (recalledAll recalled mode world vault)]
  rfl

theorem solePrimaryGrown (plain : ∀ row ∈ new, row.value.primary = false) :
    solePrimary? (stored ++ new) = solePrimary? stored := by
  have none : new.filter (·.value.primary) = [] :=
    List.filter_eq_nil_iff.2 fun row place => by simp [plain row place]
  rw [solePrimary?, List.filter_append, none, List.append_nil, ← solePrimary?]

theorem ofPolicyGrown {configured : List (Password × Encryptor)}
    (listed : ∀ row ∈ new, row.id ∈ configured.map (·.1.label)) :
    ofPolicy enabled (stored ++ new) sole configured = ofPolicy enabled stored sole configured := by
  have none : (new.map (·.id)).filter
      (fun label => !(configured.map (·.1.label)).contains label) = [] := by
    refine List.filter_eq_nil_iff.2 fun label place => ?_
    obtain ⟨row, found, rfl⟩ := List.mem_map.1 place
    simp [listed row found]
  simp only [ofPolicy, List.map_append, List.filter_append, none, List.append_nil]

namespace Enrolled

variable (law : suite.OpensSealed)
  (enrolled : Enrolled suite world table.rows earlier new encryptors)
  (rows : longer.rows = table.rows ++ new) (alone : solePrimary? table.rows = .ok sole)
  (found : vault.database.credentials = some longer)
include enrolled

theorem plain : ∀ row ∈ new, row.value.primary = false := by
  intro row place
  obtain ⟨_, _, _, _, made⟩ := enrolled.madeNew place
  exact made.primary

theorem listed : ∀ row ∈ new, row.id ∈ earlier.map (·.label) := by
  intro row place
  obtain ⟨entry, configured, _, _, made⟩ := enrolled.madeNew place
  exact List.mem_map.2 ⟨entry, configured, made.id.symm⟩

theorem stillAlone (rows : longer.rows = table.rows ++ new)
    (alone : solePrimary? table.rows = .ok sole) : solePrimary? longer.rows = .ok sole := by
  rw [rows, solePrimaryGrown enrolled.plain, alone]

include law rows alone found

theorem reconciledAgain (mode : Mode) (enabled : Bool) (later : Surroundings) :
    reconcileWith suite mode enabled earlier later vault =
      (ofPolicy enabled table.rows sole (earlier.zip encryptors), vault) := by
  have recalled := enrolled.recalled law fun row place => rows ▸ place
  have listed := enrolled.listed
  rw [← zippedLabels enrolled.length] at listed
  rw [reconcileRecalled recalled found (enrolled.stillAlone rows alone), rows, ofPolicyGrown listed]

theorem stoppedAgain {entry : Password} {row : Row Credential} {error : ReconcileError}
    (known : table.rows.find? (·.id == entry.label) = some row)
    (refused : knownEncryptor suite entry row.value = .error error) (rest : List Password)
    (mode : Mode) (enabled : Bool) (later : Surroundings) :
    reconcileWith suite mode enabled (earlier ++ entry :: rest) later vault =
      (.error error, vault) := by
  have recalled := enrolled.recalled law fun row place => rows ▸ place
  have stops : encryptorsFor suite mode longer.rows (entry :: rest) later vault =
      (.error error, vault) := by
    rw [encryptorsFor]
    simp only [foundGrown rows known]
    rw [refused, Action.bindOfError rfl]
  rw [reconcileWithAlone mode enabled _ found (enrolled.stillAlone rows alone),
    Action.bindOfError (recalledAhead recalled stops)]

end Enrolled
end BrokerVault.Reconciliation
