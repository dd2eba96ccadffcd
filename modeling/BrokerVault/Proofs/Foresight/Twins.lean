import BrokerVault.Proofs.Policy
import BrokerVault.Proofs.Restart.Separation

/-! A preview beside the run that it previews. Both take the key of a stored label from the stored
salt, and both make a key for every other label, so they differ in the keys of new labels and in
nothing else; and where no such key opens what is stored, their encryptors read it alike. -/
namespace BrokerVault.Foresight

open Reconciliation Restart

inductive MadeKey (suite : CipherSuite) (world : Surroundings) (base : Database)
    (entries : List Password) : String → Key → Prop where
  | made {entry} {salt : BytesOf saltLength} (configured : entry ∈ entries)
      (absent : salt? base entry.label = none) (drawn : world.Draws salt) :
      MadeKey suite world base entries entry.label (suite.deriveKey entry.secret salt.1)

inductive Twin (suite : CipherSuite) (world later : Surroundings) (base : Database)
    (entries : List Password) : Encryptor → Encryptor → Prop where
  | same {encryptor} : Twin suite world later base entries encryptor encryptor
  | made {label key other} (one : MadeKey suite world base entries label key)
      (two : MadeKey suite later base entries label other) :
      Twin suite world later base entries (.aead label key) (.aead label other)

inductive Lifted {ε α β : Type} (relation : α → β → Prop) : Except ε α → Except ε β → Prop where
  | failed {error} : Lifted relation (.error error) (.error error)
  | went {one other} (related : relation one other) : Lifted relation (.ok one) (.ok other)

structure Alike (suite : CipherSuite) (world later : Surroundings) (base : Database)
    (entries : List Password) (plan actual : Reconciliation) : Prop where
  changed : plan.changed = actual.changed
  configuredPrimary : plan.configuredPrimary = actual.configuredPrimary
  storedPrimary : plan.storedPrimary = actual.storedPrimary
  stale : plan.stale = actual.stale
  encryptor : Twin suite world later base entries plan.encryptor actual.encryptor
  rotation : plan.rotation = none ∧ actual.rotation = none ∨
    ∃ readers others, plan.rotation = some (.compound plan.encryptor readers) ∧
      actual.rotation = some (.compound actual.encryptor others) ∧
      List.Forall₂ (Twin suite world later base entries) readers others

variable {suite : CipherSuite} {world later : Surroundings} {base : Database}
  {entries : List Password} {vault again : Vault} {table stored : Table Credential}

theorem newPreviewed (suite : CipherSuite)
    (draws : ∀ moment length, ∃ bytes, world.random moment length = some bytes)
    {entry : Password} (long : CipherSuite.leastSecretBytes ≤ entry.secret.utf8ByteSize)
    (vault : Vault) :
    ∃ (salt : BytesOf saltLength) (after : Vault), world.Draws salt ∧
      newEncryptor suite .preview entry world vault =
        (.ok (.aead entry.label (suite.deriveKey entry.secret salt.1)), after) := by
  obtain ⟨salt, drawn⟩ := draws vault.moment saltLength
  refine ⟨salt, { vault with moment := vault.moment + 1 }, ⟨_, drawn⟩, ?_⟩
  rw [newEncryptor, Action.bindRandom]
  simp only [drawn, deriveFor, CipherSuite.deriveLong long salt.2]
  rw [Action.bindOfExceptOk]
  rfl

theorem newSaved (equipped : Equipped suite later) {entry : Password}
    (long : CipherSuite.leastSecretBytes ≤ entry.secret.utf8ByteSize)
    (found : again.database.credentials = some table) (free : table.find? entry.label = none) :
    ∃ (salt : BytesOf saltLength) (after : Vault) (row : Row Credential)
      (longer : Table Credential), later.Draws salt ∧
      newEncryptor suite .save entry later again =
        (.ok (.aead entry.label (suite.deriveKey entry.secret salt.1)), after) ∧
      row.id = entry.label ∧ longer.rows = table.rows ++ [row] ∧
      after.database.credentials = some longer := by
  cases ran : newEncryptor suite .save entry later again with
  | mk result after =>
    cases result with
    | error error => exact (equipped.stores long free (newEncryptorFails found ran).1).elim
    | ok encryptor =>
      obtain ⟨key, row, longer, rfl, fresh, rows, _, _, stored⟩ := newEncryptorStores found ran
      obtain ⟨salt, drawn, same⟩ := fresh.salt
      have derived := CipherSuite.derivedKey fresh.derived
      rw [same] at derived
      exact ⟨salt, after, row, longer, drawn, by rw [derived], fresh.id, rows, stored⟩

theorem followingLifted {relation : Encryptor → Encryptor → Prop} {encryptor other : Encryptor}
    {first second : Action ReconcileError (List Encryptor)} {count : Nat}
    (head : relation encryptor other)
    (rest : Lifted (fun one two => one.length = count ∧ List.Forall₂ relation one two)
      (first world vault).1 (second later again).1) :
    Lifted (fun one two => one.length = count + 1 ∧ List.Forall₂ relation one two)
      ((first >>= fun following => pure (encryptor :: following)) world vault).1
      ((second >>= fun following => pure (other :: following)) later again).1 := by
  cases one : first world vault with
  | mk told middle =>
    cases two : second later again with
    | mk answer left =>
      rw [one, two] at rest
      cases rest with
      | failed =>
        rw [Action.bindOfError one, Action.bindOfError two]
        exact .failed
      | went related =>
        rw [Action.bindOfOk one, Action.bindOfOk two]
        exact .went ⟨congrArg (· + 1) related.1, .cons head related.2⟩

theorem encryptorsTwins (vault : Vault)
    (draws : ∀ moment length, ∃ bytes, world.random moment length = some bytes)
    (equipped : Equipped suite later) (credentials : base.credentials = some stored)
    {rest : List Password} (within : ∀ entry ∈ rest, entry ∈ entries)
    (long : ∀ entry ∈ rest, CipherSuite.leastSecretBytes ≤ entry.secret.utf8ByteSize)
    (distinct : (rest.map (·.label)).Nodup) (found : again.database.credentials = some table)
    (new : ∀ entry ∈ rest, stored.rows.find? (·.id == entry.label) = none →
      table.find? entry.label = none) :
    Lifted (fun one other => one.length = rest.length ∧
        List.Forall₂ (Twin suite world later base entries) one other)
      (encryptorsFor suite .preview stored.rows rest world vault).1
      (encryptorsFor suite .save stored.rows rest later again).1 := by
  -- On the entries. Only the store of the run grows, and `new` says that it does not grow at the
  -- labels still to come.
  induction rest generalizing vault again table with
  | nil => exact .went ⟨rfl, .nil⟩
  | cons entry rest ih =>
    obtain ⟨configured, within⟩ := List.forall_mem_cons.1 within
    obtain ⟨headLong, long⟩ := List.forall_mem_cons.1 long
    obtain ⟨alone, distinct⟩ := List.nodup_cons.1 distinct
    obtain ⟨headNew, new⟩ := List.forall_mem_cons.1 new
    rw [encryptorsFor, encryptorsFor]
    cases known : stored.rows.find? (·.id == entry.label) with
    | some row =>
      cases tested : knownEncryptor suite entry row.value with
      | error error =>
        simp only [tested, Action.bindOfExceptError]
        exact .failed
      | ok encryptor =>
        simp only [tested, Action.bindOfExceptOk]
        exact followingLifted .same (ih _ within long distinct found new)
    | none =>
      obtain ⟨salt, middle, drawn, previewed⟩ := newPreviewed suite draws headLong vault
      obtain ⟨other, left, row, longer, otherDrawn, saved, id, rows, foundNow⟩ :=
        newSaved equipped headLong found (headNew known)
      have absent : salt? base entry.label = none := by
        have none : stored.find? entry.label = none := known
        simp [salt?, credentials, none]
      simp only []
      rw [Action.bindOfOk previewed, Action.bindOfOk saved]
      exact followingLifted (.made (.made configured absent drawn) (.made configured absent otherDrawn))
        (ih _ within long distinct foundNow (stillNew alone id rows new))

theorem planAlike {rows : List (Row Credential)} {sole : Option String} {one other : List Encryptor}
    (length : one.length = entries.length)
    (twins : List.Forall₂ (Twin suite world later base entries) one other) :
    Alike suite world later base entries (planOf rows sole (entries.zip one))
      (planOf rows sole (entries.zip other)) := by
  rw [planOfZip length, planOfZip (twins.length_eq ▸ length)]
  refine ⟨rfl, rfl, rfl, rfl, primaryEncryptorPaired .same twins entries, ?_⟩
  by_cases same : primaryLabel entries = sole.getD ""
  · exact .inl ⟨if_pos same, if_pos same⟩
  · exact .inr ⟨_, _, if_neg same, if_neg same,
      List.rel_append twins (List.forall₂_same.2 fun _ _ => .same)⟩

theorem plansAlike (draws : ∀ moment length, ∃ bytes, world.random moment length = some bytes)
    (equipped : Equipped suite later) (accepted : Password.Accepted entries) (enabled : Bool)
    (same : again.database = vault.database) :
    Lifted (Alike suite world later vault.database entries)
      (preview suite enabled entries world vault).1
      (reconcile suite enabled entries later again).1 := by
  cases credentials : vault.database.credentials with
  | none =>
    rw [preview, reconcile, reconcileWithMissing _ _ _ credentials,
      reconcileWithMissing _ _ _ (same ▸ credentials)]
    exact .failed
  | some stored =>
    have found : again.database.credentials = some stored := same ▸ credentials
    cases alone : solePrimary? stored.rows with
    | error error =>
      rw [preview, reconcile, reconcileWithSeveral _ _ _ credentials alone,
        reconcileWithSeveral _ _ _ found alone]
      exact .failed
    | ok sole =>
      rw [preview, reconcile, reconcileWithAlone _ _ _ credentials alone,
        reconcileWithAlone _ _ _ found alone]
      have twins := encryptorsTwins vault draws equipped credentials
        (fun _ place => place) (fun _ place => accepted.secretLong place) accepted.distinct found
        fun _ _ absent => absent
      cases one : encryptorsFor suite .preview stored.rows entries world vault with
      | mk told middle =>
        cases two : encryptorsFor suite .save stored.rows entries later again with
        | mk answer left =>
          rw [one, two] at twins
          cases twins with
          | failed =>
            rw [Action.bindOfError one, Action.bindOfError two]
            exact .failed
          | went related =>
            obtain ⟨length, paired⟩ := related
            rw [Action.bindOfOk one, Action.bindOfOk two]
            simp only [Action.ofExceptRun, Policy.ofPolicyDecides length,
              Policy.ofPolicyDecides (paired.length_eq ▸ length)]
            split
            · exact .failed
            · exact .went (planAlike length paired)

theorem idleSteady : Action.Steady fun before after =>
    after.database = before.database ∧ after.commits = before.commits where
  looking _ _ := ⟨rfl, rfl⟩
  trans first second := ⟨second.1.trans first.1, second.2.trans first.2⟩

theorem previewIdle (suite : CipherSuite) (enabled : Bool) (entries : List Password)
    (world : Surroundings) (vault : Vault) :
    (preview suite enabled entries world vault).2.database = vault.database ∧
      (preview suite enabled entries world vault).2.commits = vault.commits := by
  refine reconcileWithin idleSteady (fun entry => ?_) enabled entries world vault
  refine idleSteady.bind (idleSteady.random saltLength) fun drawn => ?_
  cases drawn with
  | none => exact idleSteady.fail _
  | some salt =>
    exact idleSteady.bind (idleSteady.ofExcept _) fun encryptor => idleSteady.pure encryptor

/-- No key that the run makes opens what is stored. -/
def Unopened (suite : CipherSuite) (world : Surroundings) (base : Database)
    (entries : List Password) : Prop :=
  ∀ label key, MadeKey suite world base entries label key → ∀ name value, Stores base name value →
    ∀ text, (Encryptor.aead label key).openColumn suite value ≠ .ok text

theorem Twin.opens (unopened : Unopened suite world base entries)
    (unopenedLater : Unopened suite later base entries) {one other : Encryptor}
    (twin : Twin suite world later base entries one other) {name : ProtectedTable}
    {value : ColumnValue} (stores : Stores base name value) :
    one.openColumn suite value = other.openColumn suite value := by
  cases twin with
  | same => rfl
  | made first second =>
    exact Encryptor.openAeadRefused (unopened _ _ first name value stores)
      (unopenedLater _ _ second name value stores)

theorem Alike.failures (unopened : Unopened suite world base entries)
    (unopenedLater : Unopened suite later base entries) {plan actual : Reconciliation}
    (alike : Alike suite world later base entries plan actual) :
    Verification.failures suite (plan.rotation.getD plan.encryptor) base =
      Verification.failures suite (actual.rotation.getD actual.encryptor) base := by
  refine Verification.failuresAlike fun name stored table row place value held => ?_
  have stores : Stores base name value := ⟨stored, row, table, place, held⟩
  rcases alike.rotation with ⟨none, also⟩ | ⟨readers, others, some, also, twins⟩
  · rw [none, also]
    exact alike.encryptor.opens unopened unopenedLater stores
  · rw [some, also]
    exact Encryptor.openCompoundSame (twins.imp fun _ _ twin =>
      twin.opens unopened unopenedLater stores)

end BrokerVault.Foresight
