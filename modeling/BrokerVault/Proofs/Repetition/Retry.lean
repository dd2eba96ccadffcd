import BrokerVault.Proofs.Repetition.Recall

/-! Reconciling again after a run, whatever that run came to. What it stored before it stopped is
recalled, and the entry that it stopped at stops the next run too. -/
namespace BrokerVault

open Reconciliation

namespace Repetition

variable {suite : CipherSuite} {world : Surroundings} {vault after : Vault} {table : Table Credential}
  {entries : List Password} {enabled : Bool}

def unseen (stored : List (Row Credential)) (entries : List Password) : List String :=
  (entries.filter fun entry => (stored.find? (·.id == entry.label)).isNone).map (·.label)

structure Appended (entries : List Password) (table longer : Table Credential)
    (new : List (Row Credential)) : Prop where
  rows : longer.rows = table.rows ++ new
  plain : ∀ row ∈ new, row.value.primary = false
  salted : ∀ row ∈ new, row.value.salt.length = saltLength
  labels : new.map (·.id) <+: unseen table.rows entries

theorem appendedNone : Appended entries table table [] :=
  ⟨(List.append_nil _).symm, by simp, by simp, List.nil_prefix⟩

theorem appendedEnrolled {earlier rest : List Password} {new : List (Row Credential)}
    {encryptors : List Encryptor} {longer : Table Credential}
    (enrolled : Enrolled suite world table.rows earlier new encryptors)
    (rows : longer.rows = table.rows ++ new) : Appended (earlier ++ rest) table longer new := by
  refine ⟨rows, enrolled.plain, fun row place => ?_, ?_⟩
  · obtain ⟨_, _, _, _, made⟩ := enrolled.madeNew place
    obtain ⟨salt, _, same⟩ := made.salt
    rw [same, salt.2]
  · rw [enrolled.newLabels, unseen, List.filter_append, List.map_append]
    exact List.prefix_append _ _

theorem enrolmentRefused {error : ReconcileError} (equipped : Equipped suite world)
    (accepted : Password.Accepted entries)
    (salts : ∀ row ∈ table.rows, row.value.salt.length = saltLength)
    (found : vault.database.credentials = some table)
    (ran : encryptorsFor suite .save table.rows entries world vault = (.error error, after)) :
    ∃ earlier entry rest new encryptors longer row, entries = earlier ++ entry :: rest ∧
      Enrolled suite world table.rows earlier new encryptors ∧ longer.rows = table.rows ++ new ∧
      after.database = vault.database.withCredentials longer ∧
      table.rows.find? (·.id == entry.label) = some row ∧
      knownEncryptor suite entry row.value = .error error ∧ error = .canaryMismatch entry.label := by
  obtain ⟨earlier, entry, rest, new, encryptors, longer, rfl, enrolled, rows, left, stops⟩ :=
    encryptorsForFails found ran
  have place : entry ∈ earlier ++ entry :: rest := List.mem_append_right _ List.mem_cons_self
  have long := accepted.secretLong place
  rcases stops with ⟨row, known, refused⟩ | ⟨absent, unstored⟩
  · refine ⟨earlier, entry, rest, new, encryptors, longer, row, rfl, enrolled, rows, left, known,
      refused, ?_⟩
    rcases Policy.mismatchedKnown known long (salts row (List.mem_of_find?_eq_some known)) with
      ⟨_, _, opens⟩ | ⟨_, told⟩
    · cases refused.symm.trans opens
    · exact Except.error.inj (refused.symm.trans told)
  · have distinct := accepted.distinct
    rw [List.map_append, List.map_cons] at distinct
    have apart : entry.label ∉ earlier.map (·.label) := fun also =>
      (List.nodup_append.1 distinct).2.2 _ also _ List.mem_cons_self rfl
    exact absurd unstored (equipped.stores long (enrolled.stillAbsent rows absent apart))

/-- A second run writes nothing and comes to the same end. -/
theorem reconcilingRepeats {result : Except ReconcileError Reconciliation}
    (law : suite.OpensSealed) (equipped : Equipped suite world)
    (accepted : Password.Accepted entries) (found : vault.database.credentials = some table)
    (salts : ∀ row ∈ table.rows, row.value.salt.length = saltLength)
    (ran : reconcile suite enabled entries world vault = (result, after)) :
    (∃ longer new, after.database = vault.database.withCredentials longer ∧
      Appended entries table longer new ∧
      (new.map (·.id) = unseen table.rows entries ∨ result = .error .severalPrimaries ∨
        ∃ label, result = .error (.canaryMismatch label))) ∧
    ∀ later again, again.database = after.database →
      reconcile suite enabled entries later again = (result, again) := by
  have unchanged := (Database.withCredentialsSame found).symm
  cases alone : solePrimary? table.rows with
  | error error =>
    rw [reconcile, reconcileWithSeveral .save enabled entries found alone] at ran
    cases ran
    refine ⟨⟨table, [], unchanged, appendedNone, .inr (.inl ?_)⟩, fun later again same => ?_⟩
    · rw [Policy.solePrimaryDecides] at alone
      split at alone
      · exact congrArg _ (Except.error.inj alone.symm)
      · cases alone
    · exact reconcileWithSeveral .save enabled entries (same ▸ found) alone
  | ok sole =>
    rw [reconcile, reconcileWithAlone .save enabled entries found alone] at ran
    rcases Action.bindRan ran with ⟨encryptors, middle, enrolling, last⟩ | ⟨error, failed, rfl⟩
    · obtain ⟨rfl, rfl⟩ := Prod.mk.inj last
      obtain ⟨new, longer, enrolled, rows, left⟩ := encryptorsForEnrolled found enrolling
      have appended : Appended (entries ++ []) table longer new := appendedEnrolled enrolled rows
      rw [List.append_nil] at appended
      refine ⟨⟨longer, new, left, appended, .inl enrolled.newLabels⟩, fun later again same => ?_⟩
      have stored : again.database.credentials = some longer := by
        rw [same, left, Database.credentialsOfWith]
      exact enrolled.reconciledAgain law rows alone stored .save enabled later
    · obtain ⟨earlier, entry, rest, new, encryptors, longer, row, rfl, enrolled, rows, left, known,
        refused, told⟩ := enrolmentRefused equipped accepted salts found failed
      refine ⟨⟨longer, new, left, appendedEnrolled enrolled rows, .inr (.inr ⟨_, congrArg _ told⟩)⟩,
        fun later again same => ?_⟩
      have stored : again.database.credentials = some longer := by
        rw [same, left, Database.credentialsOfWith]
      exact enrolled.stoppedAgain law rows alone stored known refused rest .save enabled later

end Repetition

/-! A stored label whose canary is empty, with a new label before it in the list and one behind. -/
namespace HalfEnrolled

open Repetition

def first : Password := ⟨"first", "a secret of twenty bytes", true⟩
def other : Password := ⟨"other", "another secret, as long", false⟩
def third : Password := ⟨"third", "one more secret, as long", false⟩

def entries : List Password := [first, other, third]

def credentials : Table Credential :=
  Table.empty.upsert other.label ⟨List.replicate saltLength 0, [], false, default, default⟩

def database : Database := { Database.empty with credentials := some credentials }

theorem acceptedEntries : Password.Accepted entries := (Password.acceptedIff _).1 (by decide)

theorem equipped : Equipped .standard FirstSetup.world :=
  ⟨fun _ _ => ⟨_, rfl⟩, CipherSuite.standardSeals Canary.plaintext (by decide)⟩

theorem saltsLong : ∀ row ∈ credentials.rows, row.value.salt.length = saltLength := by decide

theorem onlyOther {entry : Password} {row : Row Credential}
    (known : credentials.rows.find? (·.id == entry.label) = some row) :
    entry.label = other.label := by
  cases List.mem_singleton.1 (List.mem_of_find?_eq_some known)
  have same : other.label = entry.label := by simpa using List.find?_some known
  exact same.symm

theorem stopsAtOther : ∃ after longer new,
    reconcile .standard true entries FirstSetup.world (.ofDatabase database) =
      (.error (.canaryMismatch "other"), after) ∧
    after.database = database.withCredentials longer ∧ longer.rows = credentials.rows ++ new ∧
    new.map (·.id) = ["first"] := by
  have found : (Vault.ofDatabase database).database.credentials = some credentials := rfl
  have alone : solePrimary? credentials.rows = .ok none := rfl
  cases enrolling : encryptorsFor .standard .save credentials.rows entries FirstSetup.world
      (.ofDatabase database) with
  | mk told after =>
    cases told with
    | ok encryptors =>
      obtain ⟨_, _, enrolled, _, _⟩ := encryptorsForEnrolled found enrolling
      have place : other ∈ entries := by decide
      obtain ⟨_, _, _, opened⟩ := enrolled.knownOpens place rfl
      cases opened
    | error error =>
      obtain ⟨earlier, entry, rest, new, _, longer, row, split, enrolled, rows, left, known, _, rfl⟩ :=
        enrolmentRefused equipped acceptedEntries saltsLong found enrolling
      have label := onlyOther known
      have before : earlier = [first] := by
        rcases earlier with _ | ⟨one, _ | ⟨two, _ | ⟨three, more⟩⟩⟩
        · cases split
          exact absurd label (by decide)
        · cases split
          rfl
        · cases split
          exact absurd label (by decide)
        · simp [entries] at split
      subst before
      refine ⟨after, longer, new, ?_, left, rows, enrolled.newLabels⟩
      rw [reconcile, reconcileWithAlone _ _ _ found alone, Action.bindOfError enrolling, label]
      rfl

theorem mismatchRepeats : ∃ after longer new,
    reconcile .standard true entries FirstSetup.world (.ofDatabase database) =
      (.error (.canaryMismatch "other"), after) ∧
    after.database = database.withCredentials longer ∧ Appended entries credentials longer new ∧
    new.map (·.id) = ["first"] ∧
    ∀ later again, again.database = after.database →
      reconcile .standard true entries later again =
        (.error (.canaryMismatch "other"), again) := by
  obtain ⟨after, longer, new, ran, left, rows, labels⟩ := stopsAtOther
  obtain ⟨⟨also, more, same, appended, _⟩, again⟩ :=
    reconcilingRepeats CipherSuite.standardOpensSealed equipped acceptedEntries rfl saltsLong ran
  cases Option.some.inj (congrArg Database.credentials (same.symm.trans left))
  cases List.append_cancel_left (appended.rows.symm.trans rows)
  exact ⟨after, longer, new, ran, left, appended, labels, again⟩

end HalfEnrolled
end BrokerVault
