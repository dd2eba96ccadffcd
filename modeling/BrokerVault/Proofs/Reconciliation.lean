import BrokerVault.Proofs.Enrolment
import BrokerVault.Proofs.Passwords

/-! What reconciling plans. The plan rests on the stored rows with the new ones behind them: the key
of the primary entry seals new values, and a change of the primary is made by all keys together. -/
namespace BrokerVault.Reconciliation

variable {suite : CipherSuite} {world : Surroundings} {vault after : Vault}
  {stored : List (Row Credential)} {table : Table Credential}

def planOf (stored : List (Row Credential)) (sole : Option String)
    (configured : List (Password × Encryptor)) : Reconciliation :=
  let primary := configured.find? (·.1.primary)
  let encryptor := (primary.map (·.2)).getD .noop
  let configuredPrimary := (primary.map (·.1.label)).getD ""
  let changed := configuredPrimary != sole.getD ""
  let plain := if sole.isNone || primary.isNone then [Encryptor.noop] else []
  let rotation := Encryptor.compound encryptor (configured.map (·.2) ++ plain)
  { encryptor
    rotation := if changed then some rotation else none
    changed
    configuredPrimary
    storedPrimary := sole.getD ""
    stale := (stored.map (·.id)).filter fun label => !(configured.map (·.1.label)).contains label }

theorem ofPolicyOk {enabled : Bool} {sole : Option String} {configured : List (Password × Encryptor)}
    {plan : Reconciliation} :
    ofPolicy enabled stored sole configured = .ok plan ↔
      (∀ label, sole = some label → label ∈ configured.map (·.1.label)) ∧
      enabled = (configured.find? (·.1.primary)).isSome ∧ plan = planOf stored sole configured := by
  have filtered : (sole.filter fun label => !(configured.map (·.1.label)).contains label) = none ↔
      ∀ label, sole = some label → label ∈ configured.map (·.1.label) := by
    cases sole with
    | none => simp
    | some label => simp [Option.filter_some]
  simp only [ofPolicy]
  cases missing : sole.filter fun label => !(configured.map (·.1.label)).contains label with
  | some label =>
    rw [missing] at filtered
    simp only [reduceCtorEq, false_iff] at filtered ⊢
    exact fun supplied => filtered supplied.1
  | none =>
    have supplied := filtered.1 missing
    have agreed : ∀ plan, (∀ label, sole = some label → label ∈ configured.map (·.1.label)) ∧
        True ∧ plan = planOf stored sole configured ↔ planOf stored sole configured = plan :=
      fun plan => ⟨fun all => all.2.2.symm, fun same => ⟨supplied, trivial, same.symm⟩⟩
    cases primary : configured.find? (·.1.primary) with
    | none =>
      cases enabled with
      | true => simp
      | false =>
        simp only [Option.isSome_none, agreed]
        simp only [planOf, primary, Except.ok.injEq]
    | some entry =>
      cases enabled with
      | true =>
        simp only [Option.isSome_some, agreed]
        simp only [planOf, primary, Except.ok.injEq]
      | false => simp

inductive Chosen (suite : CipherSuite) (rows : List (Row Credential)) (entries : List Password) :
    Encryptor → Prop where
  | key {entry encryptor} (primary : entries.find? (·.primary) = some entry)
      (held : Holds suite rows entry encryptor) : Chosen suite rows entries encryptor
  | none (absent : entries.find? (·.primary) = none) : Chosen suite rows entries .noop

def primaryLabel (entries : List Password) : String :=
  ((entries.find? (·.primary)).map (·.label)).getD ""

def plainReader (sole : Option String) (entries : List Password) : List Encryptor :=
  if sole.isNone || (entries.find? (·.primary)).isNone then [.noop] else []

theorem plainReaderNoop {sole : Option String} {entries : List Password} {reader : Encryptor}
    (place : reader ∈ plainReader sole entries) : reader = .noop := by
  unfold plainReader at place
  split at place
  · exact List.mem_singleton.1 place
  · simp at place

theorem Chosen.leaf {entries : List Password} {encryptor : Encryptor}
    (chosen : Chosen suite stored entries encryptor) : encryptor.IsLeaf := by
  cases chosen with
  | key _ held =>
    obtain ⟨_, _, _, _, _, rfl⟩ := held
    exact trivial
  | none => exact trivial

theorem Chosen.same {entries : List Password} {one other : Encryptor}
    (first : Chosen suite table.rows entries one) (second : Chosen suite table.rows entries other) :
    one = other := by
  cases first with
  | key primary held =>
    cases second with
    | key otherPrimary otherHeld =>
      rw [primary] at otherPrimary
      cases otherPrimary
      obtain ⟨row, place, key, label, derived, rfl⟩ := held
      obtain ⟨otherRow, otherPlace, otherKey, otherLabel, otherDerived, rfl⟩ := otherHeld
      cases Table.sameRow place otherPlace (label.trans otherLabel.symm)
      rw [derived] at otherDerived
      cases otherDerived
      rfl
    | none absent => simp [primary] at absent
  | none absent =>
    cases second with
    | key primary => simp [absent] at primary
    | none => rfl

theorem Chosen.sameKey {entries : List Password} {encryptor : Encryptor} {changed : Table Credential}
    (chosen : Chosen suite table.rows entries encryptor)
    (keys : List.Forall₂ Credentials.SameKey table.rows changed.rows) :
    Chosen suite changed.rows entries encryptor := by
  cases chosen with
  | key primary held =>
    obtain ⟨row, place, key, label, derived, rfl⟩ := held
    obtain ⟨other, found, same⟩ := pairedLeft keys place
    exact .key primary ⟨other, found, key, same.id.trans label, same.salt.symm ▸ derived, rfl⟩
  | none absent => exact .none absent

theorem Chosen.among {entries : List Password} {encryptor : Encryptor} {rows : List (Row Credential)}
    (chosen : Chosen suite stored entries encryptor)
    (kept : ∀ row ∈ stored, row.id ∈ entries.map (·.label) → row ∈ rows) :
    Chosen suite rows entries encryptor := by
  cases chosen with
  | key primary held =>
    obtain ⟨row, place, key, label, derived, rfl⟩ := held
    have configured := List.mem_of_find?_eq_some primary
    have still := kept row place (List.mem_map.2 ⟨_, configured, label.symm⟩)
    exact .key primary ⟨row, still, key, label, derived, rfl⟩
  | none absent => exact .none absent

theorem Chosen.sealsAlike (alike : suite.SealsAlike) {rows : List (Row Credential)}
    {entries : List Password} {one other : Encryptor} (first : Chosen suite stored entries one)
    (second : Chosen suite rows entries other) {format : ColumnFormat}
    {nonce : Option (BytesOf nonceLength)} {plaintext : Bytes} {value : ColumnValue}
    (ran : one.sealColumn suite format nonce plaintext = .ok value) (drawn : BytesOf nonceLength) :
    ∃ otherValue, other.sealColumn suite format (some drawn) plaintext = .ok otherValue := by
  cases first with
  | key primary held =>
    cases second with
    | key otherPrimary otherHeld =>
      obtain ⟨_, _, key, _, _, rfl⟩ := held
      obtain ⟨_, _, otherKey, _, _, rfl⟩ := otherHeld
      obtain ⟨bytes, sealing, _⟩ := Encryptor.sealAeadSource ran
      obtain ⟨otherBytes, otherSealing⟩ := CipherSuite.sealOther alike sealing drawn
      exact ⟨_, Encryptor.sealAeadOfBytes otherSealing format⟩
    | none absent => simp [primary] at absent
  | none absent =>
    cases second with
    | key primary => simp [absent] at primary
    | none => exact ⟨value, Encryptor.sealNoopOfPlain (Encryptor.sealNoopSource ran) _⟩

theorem Chosen.seals {entries : List Password} {writer : Encryptor} {text : Bytes}
    (chosen : Chosen suite stored entries writer) (primary : (entries.find? (·.primary)).isSome)
    (seals : suite.Seals text) (format : ColumnFormat) (nonce : BytesOf nonceLength) :
    ∃ value, writer.sealColumn suite format (some nonce) text = .ok value := by
  cases chosen with
  | none absent => simp [absent] at primary
  | key _ held =>
    obtain ⟨_, _, key, _, _, rfl⟩ := held
    obtain ⟨_, written⟩ := seals.bytes key nonce
    exact ⟨_, Encryptor.sealAeadOfBytes written format⟩

theorem zippedLabels {entries : List Password} {encryptors : List Encryptor}
    (length : encryptors.length = entries.length) :
    (entries.zip encryptors).map (·.1.label) = entries.map (·.label) := by
  have same := List.map_fst_zip (Nat.le_of_eq length.symm)
  calc (entries.zip encryptors).map (·.1.label)
    _ = ((entries.zip encryptors).map Prod.fst).map (·.label) := by rw [List.map_map]; rfl
    _ = entries.map (·.label) := by rw [same]

theorem zippedPrimary {entries : List Password} {encryptors : List Encryptor}
    (length : encryptors.length = entries.length) :
    ((entries.zip encryptors).find? (·.1.primary)).map (·.1) = entries.find? (·.primary) := by
  have same := List.map_fst_zip (Nat.le_of_eq length.symm)
  calc ((entries.zip encryptors).find? (·.1.primary)).map (·.1)
    _ = ((entries.zip encryptors).map Prod.fst).find? (·.primary) := by rw [List.find?_map]; rfl
    _ = entries.find? (·.primary) := by rw [same]

def primaryEncryptor (entries : List Password) (encryptors : List Encryptor) : Encryptor :=
  (((entries.zip encryptors).find? (·.1.primary)).map (·.2)).getD .noop

theorem primaryEncryptorCons (entry : Password) (entries : List Password) (encryptor : Encryptor)
    (encryptors : List Encryptor) : primaryEncryptor (entry :: entries) (encryptor :: encryptors) =
      if entry.primary then encryptor else primaryEncryptor entries encryptors := by
  rw [primaryEncryptor, List.zip_cons_cons, List.find?_cons]
  cases entry.primary <;> rfl

theorem primaryEncryptorPaired {relation : Encryptor → Encryptor → Prop}
    (plain : relation .noop .noop) {encryptors others : List Encryptor}
    (paired : List.Forall₂ relation encryptors others) (entries : List Password) :
    relation (primaryEncryptor entries encryptors) (primaryEncryptor entries others) := by
  induction paired generalizing entries with
  | nil =>
    rw [primaryEncryptor, List.zip_nil_right]
    exact plain
  | cons head _ ih =>
    cases entries with
    | nil => exact plain
    | cons entry rest =>
      rw [primaryEncryptorCons, primaryEncryptorCons]
      split
      · exact head
      · exact ih rest

theorem planOfZip {entries : List Password} {encryptors : List Encryptor} {sole : Option String}
    (length : encryptors.length = entries.length) :
    planOf stored sole (entries.zip encryptors) =
      { encryptor := primaryEncryptor entries encryptors
        rotation := if primaryLabel entries = sole.getD "" then none else
          some (.compound (primaryEncryptor entries encryptors)
            (encryptors ++ plainReader sole entries))
        changed := primaryLabel entries != sole.getD ""
        configuredPrimary := primaryLabel entries
        storedPrimary := sole.getD ""
        stale := (stored.map (·.id)).filter fun label =>
          !(entries.map (·.label)).contains label } := by
  have primary := zippedPrimary length
  have label : (((entries.zip encryptors).find? (·.1.primary)).map (·.1.label)).getD "" =
      primaryLabel entries := by
    rw [primaryLabel, ← primary, Option.map_map]
    rfl
  have noPrimary : ((entries.zip encryptors).find? (·.1.primary)).isNone =
      (entries.find? (·.primary)).isNone := by
    rw [← primary, Option.isNone_map]
  have keys : (entries.zip encryptors).map (·.2) = encryptors :=
    List.map_snd_zip (Nat.le_of_eq length)
  by_cases same : primaryLabel entries = sole.getD ""
  · simp [planOf, primaryEncryptor, label, same, zippedLabels length]
  · simp [planOf, primaryEncryptor, label, noPrimary, keys, plainReader, same, zippedLabels length]

theorem solePrimaryOk {sole : Option String} :
    solePrimary? stored = .ok sole ↔ (stored.filter (·.value.primary)).map (·.id) = sole.toList := by
  unfold solePrimary?
  split
  · rename_i none
    cases sole <;> simp [none]
  · rename_i only same
    cases sole <;> simp [same]
  · rename_i rows several single
    cases sole with
    | none => simpa using several
    | some label =>
      simp only [reduceCtorEq, false_iff, Option.toList_some]
      intro same
      obtain ⟨only, alone, _⟩ := List.map_eq_singleton_iff.1 same
      exact single only alone

theorem wantedPrimary {entries : List Password} (accepted : Password.Accepted entries)
    (label : String) :
    label ∈ Credentials.wanted (primaryLabel entries) ↔
      ∃ entry ∈ entries, entry.primary = true ∧ entry.label = label := by
  rw [primaryLabel]
  cases found : entries.find? (·.primary) with
  | none =>
    have absent := List.find?_eq_none.1 found
    simp only [Option.map_none, Option.getD_none, Credentials.wantedNone, List.not_mem_nil, false_iff]
    rintro ⟨entry, place, primary, _⟩
    exact absent entry place primary
  | some first =>
    have place := List.mem_of_find?_eq_some found
    have primary : first.primary = true := List.find?_some found
    have filled : first.label.isEmpty = false := by simpa using (accepted.labelLong place).1
    simp only [Option.map_some, Option.getD_some, Credentials.wanted, filled, Bool.false_eq_true,
      ↓reduceIte, List.mem_singleton]
    constructor
    · rintro rfl
      exact ⟨first, place, primary, rfl⟩
    · rintro ⟨entry, other, also, rfl⟩
      rw [accepted.primaryFound other also found]

theorem wantedList {entries : List Password} (accepted : Password.Accepted entries) :
    Credentials.wanted (primaryLabel entries) =
      ((entries.find? (·.primary)).map (·.label)).toList := by
  rw [primaryLabel]
  cases found : entries.find? (·.primary) with
  | none => exact Credentials.wantedNone
  | some first =>
    have named := (accepted.labelLong (List.mem_of_find?_eq_some found)).1
    simp [Credentials.wanted, named]

theorem primaryLabelNamed {entries : List Password} (accepted : Password.Accepted entries) :
    primaryLabel entries ≠ "none" := by
  rw [primaryLabel]
  cases found : entries.find? (·.primary) with
  | none => decide
  | some first => exact (accepted.labelLong (List.mem_of_find?_eq_some found)).2

structure Founded (suite : CipherSuite) (world : Surroundings) (settings : Settings)
    (before longer : Table Credential) (sole : Option String) (new : List (Row Credential))
    (encryptors : List Encryptor) (plan : Reconciliation) : Prop where
  alone : solePrimary? before.rows = .ok sole
  enrolled : Enrolled suite world before.rows settings.passwords new encryptors
  rows : longer.rows = before.rows ++ new
  supplied : ∀ label, sole = some label → label ∈ settings.passwords.map (·.label)
  policy : settings.enabled = (settings.passwords.find? (·.primary)).isSome
  chosen : Chosen suite longer.rows settings.passwords plan.encryptor
  ownReader : plan.encryptor ∈ encryptors ++ plainReader sole settings.passwords
  rotation : plan.rotation = if primaryLabel settings.passwords = sole.getD "" then none else
    some (.compound plan.encryptor (encryptors ++ plainReader sole settings.passwords))
  configuredPrimary : plan.configuredPrimary = primaryLabel settings.passwords
  storedPrimary : plan.storedPrimary = sole.getD ""
  changed : plan.changed = (primaryLabel settings.passwords != sole.getD "")
  stale : plan.stale = (before.rows.map (·.id)).filter fun label =>
    !(settings.passwords.map (·.label)).contains label

theorem foundedPlan {settings : Settings} {before longer : Table Credential} {sole : Option String}
    {new : List (Row Credential)} {encryptors : List Encryptor}
    (alone : solePrimary? before.rows = .ok sole)
    (enrolled : Enrolled suite world before.rows settings.passwords new encryptors)
    (rows : longer.rows = before.rows ++ new)
    (supplied : ∀ label, sole = some label → label ∈ settings.passwords.map (·.label))
    (policy : settings.enabled = (settings.passwords.find? (·.primary)).isSome) :
    Founded suite world settings before longer sole new encryptors
      (planOf before.rows sole (settings.passwords.zip encryptors)) := by
  have primary := zippedPrimary enrolled.length
  have held : List.Forall₂ (Holds suite longer.rows) settings.passwords encryptors :=
    rows ▸ enrolled.held
  rw [planOfZip enrolled.length]
  refine ⟨alone, enrolled, rows, supplied, policy, ?_, ?_, rfl, rfl, rfl, rfl, rfl⟩
  · rw [primaryEncryptor]
    cases found : (settings.passwords.zip encryptors).find? (·.1.primary) with
    | none => exact .none (by rw [← primary, found]; rfl)
    | some pair =>
      have place := List.mem_of_find?_eq_some found
      exact .key (by rw [← primary, found]; rfl) ((List.forall₂_iff_zip.1 held).2 place)
  · rw [primaryEncryptor]
    cases found : (settings.passwords.zip encryptors).find? (·.1.primary) with
    | none =>
      rw [found] at primary
      simp [plainReader, ← primary]
    | some pair =>
      have place := List.mem_of_find?_eq_some found
      exact List.mem_append_left _ (List.of_mem_zip place).2

namespace Founded

variable {settings : Settings} {before longer : Table Credential} {sole : Option String}
  {new : List (Row Credential)} {encryptors : List Encryptor} {plan : Reconciliation}
  (founded : Founded suite world settings before longer sole new encryptors plan)
include founded

theorem changedTurns : plan.changed = plan.rotation.isSome := by
  rw [founded.changed, founded.rotation]
  by_cases same : primaryLabel settings.passwords = sole.getD "" <;> simp [same]

theorem held : List.Forall₂ (Holds suite longer.rows) settings.passwords encryptors :=
  founded.rows ▸ founded.enrolled.held

theorem reader {encryptor : Encryptor}
    (place : encryptor ∈ encryptors ++ plainReader sole settings.passwords) :
    encryptor = .noop ∨ ∃ entry ∈ settings.passwords, Holds suite longer.rows entry encryptor := by
  rcases List.mem_append.1 place with keyed | plain
  · exact .inr (pairedRight founded.held keyed)
  · exact .inl (plainReaderNoop plain)

theorem primaries : Credentials.primaryLabels longer = sole.toList :=
  (founded.enrolled.primaries founded.rows).trans (solePrimaryOk.1 founded.alone)

theorem complete {entry : Password} (configured : entry ∈ settings.passwords) :
    entry.label ∈ longer.rows.map (·.id) := by
  obtain ⟨_, _, row, place, _, label, _⟩ := pairedLeft founded.held configured
  exact List.mem_map.2 ⟨row, place, label⟩

theorem origin (accepted : Password.Accepted settings.passwords) {entry : Password}
    (configured : entry ∈ settings.passwords) {row : Row Credential} (place : row ∈ longer.rows)
    (label : row.id = entry.label) :
    before.find? entry.label = some row ∨
      before.find? entry.label = none ∧ ∃ key, Fresh suite world entry key row := by
  rw [founded.rows] at place
  rcases List.mem_append.1 place with old | made
  · exact .inl (label ▸ Table.findOfMem old)
  · obtain ⟨other, otherPlace, key, absent, fresh⟩ := founded.enrolled.madeNew made
    cases accepted.sameEntry otherPlace configured (fresh.id.symm.trans label)
    exact .inr ⟨absent, key, fresh⟩

theorem canaryOpens (law : suite.OpensSealed) (accepted : Password.Accepted settings.passwords)
    {entry : Password} (configured : entry ∈ settings.passwords) {row : Row Credential}
    (place : row ∈ longer.rows) (label : row.id = entry.label) {key : Key}
    (derived : suite.derive? entry.secret row.value.salt = .ok key) :
    ∃ text, suite.openWith key row.value.canary = .ok text := by
  rcases founded.origin accepted configured place label with found | ⟨_, made, fresh⟩
  · obtain ⟨other, text, otherDerived, opened⟩ := founded.enrolled.knownOpens configured found
    cases derived.symm.trans otherDerived
    exact ⟨text, opened⟩
  · cases derived.symm.trans fresh.derived
    obtain ⟨nonce, _, written⟩ := fresh.canary
    exact ⟨_, CipherSuite.openSealed law written⟩

theorem soleIs {other : Option String}
    (same : Credentials.primaryLabels longer = other.toList) : sole = other := by
  have both := founded.primaries.symm.trans same
  cases sole <;> cases other <;> simp_all

theorem primaryNamed (accepted : Password.Accepted settings.passwords) :
    "" ∉ Credentials.primaryLabels longer := by
  rw [founded.primaries]
  intro unnamed
  obtain ⟨entry, place, empty⟩ := List.mem_map.1 (founded.supplied "" (by simpa using unnamed))
  exact (accepted.labelLong place).1 empty

theorem promotion (accepted : Password.Accepted settings.passwords)
    {result : Except StoreError Unit} (table : vault.database.credentials = some longer)
    (ran : Credentials.updatePrimary plan.configuredPrimary world vault = (result, after)) :
    ∃ changed, List.Forall₂ Credentials.SameKey longer.rows changed.rows ∧
      after.database = vault.database.withCredentials changed ∧
      (∀ Good, Good vault.database → Good after.database → vault.Leads Good after) ∧
      (result = .ok () → Credentials.primaryLabels changed =
        Credentials.wanted (primaryLabel settings.passwords)) ∧
      ∀ error, result = .error error → changed = longer := by
  rw [founded.configuredPrimary] at ran
  exact Credentials.updatePrimaryRan table (founded.primaryNamed accepted) (primaryLabelNamed accepted)
    ran

theorem promotable (accepted : Password.Accepted settings.passwords) (world : Surroundings)
    (table : vault.database.credentials = some longer) :
    ∃ after, Credentials.updatePrimary plan.configuredPrimary world vault = (.ok (), after) := by
  have present : plan.configuredPrimary.isEmpty = true ∨
      (longer.find? plan.configuredPrimary).isSome := by
    rw [founded.configuredPrimary, primaryLabel]
    cases first : settings.passwords.find? (·.primary) with
    | none => exact .inl rfl
    | some entry =>
      obtain ⟨_, _, row, place, _, label, _⟩ :=
        pairedLeft founded.held (List.mem_of_find?_eq_some first)
      have stored : longer.find? entry.label = some row := label ▸ Table.findOfMem place
      exact .inr (Option.isSome_iff_exists.2 ⟨row, stored⟩)
  have named : plan.configuredPrimary ≠ "none" :=
    founded.configuredPrimary ▸ primaryLabelNamed accepted
  exact Credentials.updatePrimaryOk world table named present

theorem labels (label : String) :
    label ∈ longer.rows.map (·.id) ∧ label ∉ plan.stale ↔
      label ∈ settings.passwords.map (·.label) := by
  rw [founded.stale, founded.rows, List.map_append, founded.enrolled.newLabels]
  constructor
  · rintro ⟨found, fresh⟩
    rcases List.mem_append.1 found with old | made
    · by_contra missing
      exact fresh (List.mem_filter.2 ⟨old, by simpa using missing⟩)
    · obtain ⟨entry, place, rfl⟩ := List.mem_map.1 made
      exact List.mem_map.2 ⟨entry, (List.mem_filter.1 place).1, rfl⟩
  · intro configured
    have kept : label ∉ (before.rows.map (·.id)).filter fun label =>
        !(settings.passwords.map (·.label)).contains label := by
      intro dropped
      simpa [configured] using (List.mem_filter.1 dropped).2
    refine ⟨?_, kept⟩
    obtain ⟨entry, place, rfl⟩ := List.mem_map.1 configured
    obtain ⟨_, _, row, found, _, same, _⟩ := pairedLeft founded.held place
    rw [← founded.enrolled.newLabels, ← List.map_append, ← founded.rows]
    exact List.mem_map.2 ⟨row, found, same⟩

end Founded

theorem reconcileWithAlone (mode : Mode) (enabled : Bool) (entries : List Password)
    {sole : Option String} (found : vault.database.credentials = some table)
    (alone : solePrimary? table.rows = .ok sole) :
    reconcileWith suite mode enabled entries world vault =
      (encryptorsFor suite mode table.rows entries >>= fun encryptors =>
        Action.ofExcept (ofPolicy enabled table.rows sole (entries.zip encryptors))) world vault := by
  rw [reconcileWith, Action.bindOfOk (Action.mapErrorOfOk (Credentials.loadFound found)), alone,
    Action.bindOfOk rfl]

theorem reconcileWithSeveral (mode : Mode) (enabled : Bool) (entries : List Password)
    {error : ReconcileError} (found : vault.database.credentials = some table)
    (several : solePrimary? table.rows = .error error) :
    reconcileWith suite mode enabled entries world vault = (.error error, vault) := by
  rw [reconcileWith, Action.bindOfOk (Action.mapErrorOfOk (Credentials.loadFound found)), several,
    Action.bindOfError rfl]

theorem reconcileWithMissing (mode : Mode) (enabled : Bool) (entries : List Password)
    (absent : vault.database.credentials = none) :
    reconcileWith suite mode enabled entries world vault =
      (.error (.store (.database (.missingTable credentialTable))), vault) := by
  rw [reconcileWith, Action.bindOfError (Action.mapErrorOfError (Credentials.loadMissing absent))]

theorem encryptorsForWithin {relation : Vault → Vault → Prop} (steady : Action.Steady relation)
    {mode : Mode} (fresh : ∀ entry, Action.Within relation (newEncryptor suite mode entry))
    (stored : List (Row Credential)) (entries : List Password) :
    Action.Within relation (encryptorsFor suite mode stored entries) := by
  induction entries with
  | nil => exact steady.pure []
  | cons entry rest ih =>
    have following (encryptor : Encryptor) := steady.bind ih fun others =>
      steady.pure (ε := ReconcileError) (encryptor :: others)
    rw [encryptorsFor]
    cases stored.find? (·.id == entry.label) with
    | none => exact steady.bind (fresh entry) following
    | some row => exact steady.bind (steady.ofExcept _) following

theorem reconcileWithin {relation : Vault → Vault → Prop} (steady : Action.Steady relation)
    {mode : Mode} (fresh : ∀ entry, Action.Within relation (newEncryptor suite mode entry))
    (enabled : Bool) (entries : List Password) :
    Action.Within relation (reconcileWith suite mode enabled entries) := by
  have loading : Action.Within relation Credentials.load :=
    steady.still fun _ _ => (Credentials.loadRan rfl).1
  exact steady.bind (loading.mapError _) fun stored => steady.bind (steady.ofExcept _) fun _ =>
    steady.bind (encryptorsForWithin steady fresh stored entries) fun _ => steady.ofExcept _

theorem reconcileRan {settings : Settings} {result : Except ReconcileError Reconciliation}
    (ran : reconcile suite settings.enabled settings.passwords world vault = (result, after)) :
    (∃ error, result = .error error ∧ after = vault) ∨
    ∃ before, vault.database.credentials = some before ∧
      (∀ plan, result = .ok plan → ∃ longer sole new encryptors,
        Founded suite world settings before longer sole new encryptors plan ∧
        after.database = vault.database.withCredentials longer) ∧
      ∀ Good, (∀ state, EnrolledState suite world before.rows before settings.passwords
        vault.database none state → Good state) → vault.Leads Good after := by
  rw [reconcile, reconcileWith] at ran
  rcases Action.bindRan ran with ⟨rows, middle, loaded, rest⟩ | ⟨error, failed, rfl⟩
  · obtain ⟨rfl, found⟩ := Credentials.loadRan (Action.mapErrorRanOk loaded)
    obtain ⟨before, table, rfl⟩ := found rows rfl
    rcases Action.bindRan rest with ⟨sole, middle, alone, rest⟩ | ⟨error, failed, rfl⟩
    · obtain ⟨lone, rfl⟩ := Prod.mk.inj alone
      refine .inr ⟨before, table, ?_⟩
      rcases Action.bindRan rest with ⟨encryptors, middle, enrolling, last⟩ | ⟨error, failed, rfl⟩
      · obtain ⟨_, leads⟩ := encryptorsForRan table enrolling
        obtain ⟨planned, rfl⟩ := Prod.mk.inj last
        refine ⟨fun plan same => ?_, leads⟩
        obtain ⟨new, longer, enrolled, rows, database⟩ := encryptorsForEnrolled table enrolling
        obtain ⟨supplied, policy, rfl⟩ := ofPolicyOk.1 (planned.trans same)
        have length := enrolled.length
        rw [zippedLabels length] at supplied
        have isSome : ((settings.passwords.zip encryptors).find? (·.1.primary)).isSome =
            (settings.passwords.find? (·.primary)).isSome := by
          rw [← zippedPrimary length, Option.isSome_map]
        exact ⟨longer, sole, new, encryptors,
          foundedPlan lone enrolled rows supplied (policy.trans isSome), database⟩
      · obtain ⟨_, leads⟩ := encryptorsForRan table failed
        exact ⟨fun _ wrong => (nomatch wrong), leads⟩
    · obtain ⟨_, rfl⟩ := Prod.mk.inj failed
      exact .inl ⟨_, rfl, rfl⟩
  · obtain ⟨told, failed, same⟩ := Action.mapErrorRan failed
    obtain ⟨rfl, _⟩ := Credentials.loadRan failed
    exact .inl ⟨_, rfl, rfl⟩

theorem reconcileFounded {settings : Settings} {plan : Reconciliation}
    (ran : reconcile suite settings.enabled settings.passwords world vault = (.ok plan, after)) :
    ∃ before longer sole new encryptors, vault.database.credentials = some before ∧
      Founded suite world settings before longer sole new encryptors plan ∧
      after.database = vault.database.withCredentials longer ∧
      after.database.credentials = some longer := by
  rcases reconcileRan ran with ⟨_, wrong, _⟩ | ⟨before, found, planned, _⟩
  · cases wrong
  · obtain ⟨longer, sole, new, encryptors, founded, database⟩ := planned plan rfl
    exact ⟨before, longer, sole, new, encryptors, found, founded, database,
      database ▸ Database.credentialsOfWith _ _⟩

theorem reconcileOk {settings : Settings} {sole : Option String} (calm : world.Calm)
    (found : vault.database.credentials = some table)
    (alone : solePrimary? table.rows = .ok sole)
    (distinct : (settings.passwords.map (·.label)).Nodup)
    (supplied : ∀ label, sole = some label → label ∈ settings.passwords.map (·.label))
    (policy : settings.enabled = (settings.passwords.find? (·.primary)).isSome)
    (ready : ∀ entry ∈ settings.passwords, Enrollable suite table.rows entry) :
    ∃ plan after, reconcile suite settings.enabled settings.passwords world vault =
      (.ok plan, after) := by
  obtain ⟨encryptors, after, ran⟩ := encryptorsForOk calm found distinct (fun _ _ absent => absent)
    ready
  obtain ⟨_, _, enrolled, _, _⟩ := encryptorsForEnrolled found ran
  have length := enrolled.length
  have planned : ofPolicy settings.enabled table.rows sole (settings.passwords.zip encryptors) =
      .ok (planOf table.rows sole (settings.passwords.zip encryptors)) := by
    refine ofPolicyOk.2 ⟨zippedLabels length ▸ supplied, ?_, rfl⟩
    rw [policy, ← zippedPrimary length, Option.isSome_map]
  rw [reconcile, reconcileWithAlone _ _ _ found alone, Action.bindOfOk ran, planned]
  exact ⟨_, _, rfl⟩

end BrokerVault.Reconciliation
