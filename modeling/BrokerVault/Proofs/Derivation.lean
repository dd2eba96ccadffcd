import BrokerVault.Proofs.Completion
import BrokerVault.Proofs.Ledger.Avoidance
import BrokerVault.Proofs.Ledger.Working
import BrokerVault.Proofs.Passwords

/-! What is handed to the key derivation. Secrets come from lists that were read, so they have as many
bytes as are asked for. Salts are drawn with the right length and stored as they were drawn, whatever
runs and wherever it stops, and so no run is ever refused a key. -/
namespace BrokerVault.Derivation

open Reconciliation

def Parsed (entries : List Password) : Prop :=
  (∃ text, Password.ofText? text = .ok entries) ∨ ∃ value, Password.ofJson? value = .ok entries

inductive Ran (suite : CipherSuite) (settings : Settings) (world : Surroundings) (vault : Vault) :
    Vault → Prop where
  | reconciled : Ran suite settings world vault
      (reconcile suite settings.enabled settings.passwords world vault).2
  | previewed : Ran suite settings world vault
      (preview suite settings.enabled settings.passwords world vault).2
  | checked : Ran suite settings world vault (Check.run suite settings world vault).2
  | setUp : Ran suite settings world vault (Setup.run suite settings world vault).2

/-- The databases of all histories. A run that was stopped has left any of the states that it had
committed; what else is done to a database leaves the credentials alone. -/
inductive Reached (suite : CipherSuite) : Database → Prop where
  | begun {database} (empty : database.credentials = some .empty) : Reached suite database
  | ran {before settings world after state} (earlier : Reached suite before)
      (parsed : Parsed settings.passwords)
      (ran : Ran suite settings world (.ofDatabase before) after) (left : state ∈ after.states) :
      Reached suite state
  | elsewhere {before state} (earlier : Reached suite before)
      (same : state.credentials = before.credentials) : Reached suite state

def Salted (database : Database) : Prop :=
  ∃ stored, database.credentials = some stored ∧
    ∀ row ∈ stored.rows, row.value.salt.length = saltLength

def KeepsSalts (before after : Vault) : Prop :=
  Salted before.database → before.Leads Salted after

structure NeverRefused (suite : CipherSuite) (settings : Settings) (vault : Vault) : Prop where
  handed : ∃ stored, vault.database.credentials = some stored ∧
    ∀ entry salt, Ledger.Handed stored.rows settings.passwords entry salt →
      20 ≤ entry.secret.utf8ByteSize ∧ salt.length = 32
  reconciles : ∀ world fault,
    (reconcile suite settings.enabled settings.passwords world vault).1 ≠ .error (.derivation fault)
  previews : ∀ world fault,
    (preview suite settings.enabled settings.passwords world vault).1 ≠ .error (.derivation fault)
  checks : ∀ world fault,
    (Check.run suite settings world vault).1 ≠ .error (.reconciling (.derivation fault))
  setsUp : ∀ world fault,
    (Setup.run suite settings world vault).1 ≠ .error (.reconciling (.derivation fault))

variable {suite : CipherSuite} {settings : Settings} {world : Surroundings} {vault after : Vault}
  {database : Database} {entries : List Password}

theorem Parsed.accepted (parsed : Parsed entries) : Password.Accepted entries := by
  rcases parsed with ⟨text, ran⟩ | ⟨value, ran⟩
  · exact Password.acceptedOfText ran
  · exact Password.acceptedOfJson ran

theorem keepsSteady : Action.Steady KeepsSalts where
  looking _ _ salted := Vault.leadsSame salted rfl rfl
  trans first second salted := by
    have early := first salted
    exact early.trans (second early.present)

theorem savingKeeps (label : String) (salt : BytesOf saltLength) (canary : Bytes) :
    Action.Within KeepsSalts (Credentials.saveNew label salt.1 canary) := by
  rintro world vault ⟨stored, found, salts⟩
  have salted : Salted vault.database := ⟨stored, found, salts⟩
  cases taken : stored.find? label with
  | some row =>
    rw [Credentials.saveNewTaken world vault salt.1 canary found taken]
    exact Vault.leadsSame salted rfl rfl
  | none =>
    obtain ⟨longer, saved, rows⟩ :=
      Credentials.saveNewFound world vault salt.1 canary found taken
    rw [saved]
    refine Vault.leadsCommit salted ⟨longer, rfl, fun row place => ?_⟩ rfl rfl
    rw [rows, List.mem_append, List.mem_singleton] at place
    rcases place with old | rfl
    · exact salts row old
    · exact salt.2

theorem promotingKeeps (name : String) :
    Action.Within KeepsSalts (Credentials.updatePrimary name) := by
  rintro world vault ⟨stored, found, salts⟩
  have salted : Salted vault.database := ⟨stored, found, salts⟩
  cases ran : Credentials.updatePrimary name world vault with
  | mk result after =>
    cases Credentials.updatePrimaryMoved found ran with
    | held => exact Vault.leadsSame salted rfl rfl
    | unknown database commits => exact Vault.leadsSame salted database commits
    | moved _ database commits =>
      refine Vault.leadsCommit salted ⟨_, rfl, fun row place => ?_⟩ database commits
      obtain ⟨old, held, same⟩ :=
        pairedRight (Credentials.withPrimarySameKey stored _ _) place
      exact same.salt ▸ salts old held

theorem removingKeeps (labels : List String) :
    Action.Within KeepsSalts (Credentials.deleteByLabels labels) := by
  rintro world vault ⟨stored, found, salts⟩
  have salted : Salted vault.database := ⟨stored, found, salts⟩
  by_cases none : labels = []
  · subst none
    exact Vault.leadsSame salted rfl rfl
  · rw [Credentials.deleteFound found none]
    exact Vault.leadsCommit salted
      ⟨_, rfl, fun row place => salts row (List.mem_filter.1 place).1⟩ rfl rfl

theorem rewritingKeeps (suite : CipherSuite) (encryptor : Encryptor) :
    Action.Within KeepsSalts (Reencryption.rewriteAll suite encryptor) := by
  intro world vault salted
  have survives : Reencryption.Survives suite encryptor world Salted := by
    rintro database name stored changed ⟨credentials, found, salts⟩ _ _
    exact ⟨credentials, (Database.credentialsSet _ _ _).trans found, salts⟩
  exact (Reencryption.rewriteAllRan rfl).2 Salted survives salted

theorem Ran.keeps (ran : Ran suite settings world vault after) : KeepsSalts vault after := by
  cases ran with
  | reconciled => exact Ledger.reconcilingWithin keepsSteady suite savingKeeps .save _ _ world vault
  | previewed => exact Ledger.reconcilingWithin keepsSteady suite savingKeeps .preview _ _ world vault
  | checked => exact Ledger.checkWithin keepsSteady suite savingKeeps settings world vault
  | setUp =>
    exact Ledger.setupWithin keepsSteady suite savingKeeps (rewritingKeeps suite) promotingKeeps
      removingKeeps settings world vault

theorem Reached.salted (reached : Reached suite database) : Salted database := by
  induction reached with
  | begun empty => exact ⟨.empty, empty, fun _ place => nomatch place⟩
  | ran _ _ ran left ih => exact (ran.keeps ih).states rfl _ left
  | elsewhere _ same ih =>
    obtain ⟨stored, found, salts⟩ := ih
    exact ⟨stored, same.trans found, salts⟩

theorem handedLong {rows : List (Row Credential)} (accepted : Password.Accepted entries)
    (salts : ∀ row ∈ rows, row.value.salt.length = saltLength) {entry : Password} {salt : Bytes}
    (handed : Ledger.Handed rows entries entry salt) :
    CipherSuite.leastSecretBytes ≤ entry.secret.utf8ByteSize ∧ salt.length = saltLength := by
  cases handed with
  | known configured found =>
    exact ⟨accepted.secretLong configured, salts _ (List.mem_of_find?_eq_some found)⟩
  | drawn configured salt => exact ⟨accepted.secretLong configured, salt.2⟩

/-- After any history, and for any list that was read, every key is derived. -/
theorem keysAlwaysDerived (reached : Reached suite vault.database)
    (parsed : Parsed settings.passwords) : NeverRefused suite settings vault := by
  obtain ⟨stored, found, salts⟩ := reached.salted
  have long : ∀ entry salt, Ledger.Handed stored.rows settings.passwords entry salt →
      CipherSuite.leastSecretBytes ≤ entry.secret.utf8ByteSize ∧ salt.length = saltLength :=
    fun _ _ => handedLong parsed.accepted salts
  have reconciling (fault : CipherSuite.KeyFault) (mode : Mode) (world : Surroundings) :
      (reconcileWith suite mode settings.enabled settings.passwords world vault).1 ≠
        .error (.derivation fault) := by
    have given : Ledger.OfGiven (.derivation fault) := trivial
    refine Ledger.reconcilingAvoids given found ?_ ?_ mode settings.enabled world
    · rw [solePrimary?]
      split <;> exact fun same => by cases same
    · intro entry salt handed
      obtain ⟨secret, length⟩ := long entry salt handed
      rw [deriveFor, CipherSuite.deriveLong secret length]
      exact fun same => by cases same
  exact ⟨⟨stored, found, long⟩, fun world fault => reconciling fault .save world,
    fun world fault => reconciling fault .preview world,
    fun world fault => Ledger.checkAvoids (reconciling fault .preview world),
    fun world fault => Ledger.setupAvoids (reconciling fault .save world)⟩

end BrokerVault.Derivation

/-! A secret of as few characters as are allowed, most of them of two bytes. -/
namespace BrokerVault.AccentedSecret

open BrokerVault.Derivation

def text : String :=
  "[\x7b\"label\": \"first\", \"primary\": true, \"password\": \x7b\"secret\": \"ééééééééééééééééééé2\"\x7d\x7d]"

def settings : Settings := ⟨true, [⟨"first", "ééééééééééééééééééé2", true⟩]⟩

def after : Vault := (Setup.run .standard settings FirstSetup.world (.ofDatabase .empty)).2

theorem parsed : Parsed settings.passwords := .inl ⟨text, by decide⟩

theorem reached : Reached .standard after.database :=
  .ran (.begun rfl) parsed .setUp List.mem_cons_self

theorem accentedNeverRefused : Parsed settings.passwords ∧ Reached .standard after.database ∧
    NeverRefused .standard settings after :=
  ⟨parsed, reached, keysAlwaysDerived reached parsed⟩

end BrokerVault.AccentedSecret
