import BrokerVault.Proofs.Rotation

/-! Runs that are stopped and started again, and the keys that they may meet. The key of an entry is
fixed where a salt is stored for its label before the first run; else a drawn salt makes it. Keys that
are kept apart read what was stored before alike, and read back what any of them sealed. -/
namespace BrokerVault.Restart

open Reconciliation

/-- What the process may leave that is stopped behind any commit, any number of times. Each run has
surroundings of its own. -/
inductive Stopped (suite : CipherSuite) (settings : Settings) (Worlds : Surroundings → Prop)
    (base : Database) : Database → Prop where
  | unbegun : Stopped suite settings Worlds base base
  | again {database world state} (earlier : Stopped suite settings Worlds base database)
      (allowed : Worlds world)
      (left : state ∈ (Setup.run suite settings world (.ofDatabase database)).2.states) :
      Stopped suite settings Worlds base state

def salt? (base : Database) (label : String) : Option Bytes :=
  (base.credentials.bind fun stored => stored.find? label).map (·.value.salt)

inductive KeyOf (suite : CipherSuite) (Worlds : Surroundings → Prop) (base : Database)
    (entry : Password) : Key → Prop where
  | stored {salt} (found : salt? base entry.label = some salt) :
      KeyOf suite Worlds base entry (suite.deriveKey entry.secret salt)
  | fresh {world} {salt : BytesOf saltLength} (absent : salt? base entry.label = none)
      (allowed : Worlds world) (drawn : world.Draws salt) :
      KeyOf suite Worlds base entry (suite.deriveKey entry.secret salt.1)

def Stores (base : Database) (name : ProtectedTable) (value : ColumnValue) : Prop :=
  ∃ stored row, base.table? name = some stored ∧ row ∈ stored.rows ∧
    row.value.read name = .ok (some value)

def Document (suite : CipherSuite) (settings : Settings) (Worlds : Surroundings → Prop)
    (base : Database) (name : ProtectedTable) (document : Bytes) : Prop :=
  Json.checkDocument document = .ok () ∧ ∃ value, Stores base name value ∧
    (Encryptor.noop.openColumn suite value = .ok document ∨
      ∃ entry ∈ settings.passwords, ∃ key, KeyOf suite Worlds base entry key ∧
        (Encryptor.aead entry.label key).openColumn suite value = .ok document)

structure Separated (suite : CipherSuite) (settings : Settings) (Worlds : Surroundings → Prop)
    (base : Database) : Prop where
  /-- What one configured key seals, no other opens. -/
  exclusive : ∀ entry ∈ settings.passwords, ∀ other ∈ settings.passwords, ∀ key otherKey,
    KeyOf suite Worlds base entry key → KeyOf suite Worlds base other otherKey →
    ∀ name document, Document suite settings Worlds base name document →
    ∀ world, Worlds world → ∀ nonce : BytesOf nonceLength, world.Draws nonce →
    ∀ bytes text, suite.sealWith key (some nonce) document = .ok bytes →
      suite.openWith otherKey bytes = .ok text → otherKey = key
  /-- A key that is made during the runs opens nothing that was stored before. -/
  fresh : ∀ entry ∈ settings.passwords, salt? base entry.label = none → ∀ key,
    KeyOf suite Worlds base entry key → ∀ name value, Stores base name value →
    ∀ text, (Encryptor.aead entry.label key).openColumn suite value ≠ .ok text
  /-- The documents, as they stand, are nothing that a configured key opens. -/
  plain : ∀ entry ∈ settings.passwords, ∀ key, KeyOf suite Worlds base entry key →
    ∀ name document, Document suite settings Worlds base name document →
    ∀ value, ColumnValue.plain? name.format document = some value →
    ∀ text, (Encryptor.aead entry.label key).openColumn suite value ≠ .ok text

def Readers (suite : CipherSuite) (settings : Settings) (Worlds : Surroundings → Prop)
    (base : Database) (readers : List Encryptor) : Prop :=
  List.Forall₂ (fun entry reader => ∃ key, KeyOf suite Worlds base entry key ∧
    reader = Encryptor.aead entry.label key) settings.passwords readers

variable {suite : CipherSuite} {settings : Settings} {Worlds : Surroundings → Prop}
  {base : Database} {name : ProtectedTable} {readers others plain : List Encryptor}

theorem KeyOf.same {entry : Password} {key other : Key} {salt : Bytes}
    (found : salt? base entry.label = some salt) (first : KeyOf suite Worlds base entry key)
    (second : KeyOf suite Worlds base entry other) : key = other := by
  cases first with
  | fresh absent => simp [absent] at found
  | stored one =>
    cases second with
    | fresh absent => simp [absent] at found
    | stored two =>
      rw [one] at two
      cases two
      rfl

theorem KeyOf.ofStored {credentials : Table Credential} (found : base.credentials = some credentials)
    {entry : Password} {row changed : Row Credential} {key : Key} (place : row ∈ credentials.rows)
    (same : Credentials.SameKey row changed) (label : changed.id = entry.label)
    (derived : suite.derive? entry.secret changed.value.salt = .ok key) :
    KeyOf suite Worlds base entry key := by
  rw [CipherSuite.derivedKey derived]
  have storedSalt : salt? base entry.label = some changed.value.salt := by
    simp only [salt?, found, Option.bind_some, ← label, same.id, Table.findOfMem place,
      Option.map_some, same.salt]
  exact .stored storedSalt

theorem KeyOf.ofMade {credentials : Table Credential} (found : base.credentials = some credentials)
    {entry : Password} {row : Row Credential} {key : Key} {world : Surroundings}
    (absent : credentials.find? entry.label = none) (allowed : Worlds world)
    (made : Made suite world entry key row) : KeyOf suite Worlds base entry key := by
  rw [CipherSuite.derivedKey made.derived]
  obtain ⟨salt, drawn, same⟩ := made.salt
  have storedNone : salt? base entry.label = none := by simp [salt?, found, absent]
  exact same ▸ .fresh storedNone allowed drawn

theorem readAlike (separated : Separated suite settings Worlds base)
    (one : Readers suite settings Worlds base readers)
    (two : Readers suite settings Worlds base others) {value : ColumnValue}
    (stored : Stores base name value) (writer other : Encryptor) {text : Bytes} :
    (Encryptor.compound writer (readers ++ plain)).openColumn suite value = .ok text ↔
      (Encryptor.compound other (others ++ plain)).openColumn suite value = .ok text := by
  rw [Encryptor.openCompoundWriter other writer]
  refine Encryptor.openCompoundAlike (List.rel_append ?_ (List.forall₂_same.2 fun _ _ _ => Iff.rfl))
  refine (pairedBoth one two).imp ?_
  rintro reader otherReader ⟨entry, place, ⟨key, first, rfl⟩, ⟨otherKey, second, rfl⟩⟩ plaintext
  cases salt : salt? base entry.label with
  | some salt => rw [first.same salt second]
  | none =>
    constructor
    · exact fun opened =>
        (separated.fresh entry place salt key first name value stored plaintext opened).elim
    · exact fun opened =>
        (separated.fresh entry place salt otherKey second name value stored plaintext opened).elim

theorem readsBack (law : suite.OpensSealed) (separated : Separated suite settings Worlds base)
    (keyed : Readers suite settings Worlds base readers)
    (unkeyed : ∀ reader ∈ plain, reader = .noop) {writer : Encryptor}
    (own : writer ∈ readers ++ plain) {document : Bytes}
    (documented : Document suite settings Worlds base name document) {world : Surroundings}
    (allowed : Worlds world) {moment : Nat} {value : ColumnValue}
    (written : writer.sealColumn suite name.format (world.random moment nonceLength) document =
      .ok value) (other : Encryptor) :
    (Encryptor.compound other (readers ++ plain)).openColumn suite value = .ok document := by
  rcases List.mem_append.1 own with keyedWriter | plainWriter
  · obtain ⟨entry, place, key, keyOf, rfl⟩ := pairedRight keyed keyedWriter
    have leaf : (Encryptor.aead entry.label key).IsLeaf := trivial
    have opens := Encryptor.openSealedColumn law leaf written
    refine Encryptor.openCompoundOfAgreed ⟨_, keyedWriter, opens⟩ ?_ plain
    intro reader found text opened
    obtain ⟨otherEntry, otherPlace, otherKey, otherKeyOf, rfl⟩ := pairedRight keyed found
    obtain ⟨bytes, sealing, rfl⟩ := Encryptor.sealAeadSource written
    obtain ⟨nonce, _, drawn, _⟩ := CipherSuite.sealWithSource sealing
    rw [drawn] at sealing
    rw [Encryptor.openAead] at opened opens
    have same := separated.exclusive entry place otherEntry otherPlace key otherKey keyOf otherKeyOf
      name document documented world allowed nonce ⟨moment, drawn⟩ bytes text sealing opened
    rw [same, opens] at opened
    exact (Except.ok.inj opened).symm
  · cases unkeyed writer plainWriter
    have standing := Encryptor.sealNoopSource written
    rw [← List.append_nil (readers ++ plain)]
    refine Encryptor.openCompoundOfAgreed ⟨_, own, Encryptor.openPlain standing⟩ ?_ []
    intro reader found text opened
    rcases List.mem_append.1 found with keyedReader | plainReader
    · obtain ⟨entry, place, key, keyOf, rfl⟩ := pairedRight keyed keyedReader
      exact (separated.plain entry place key keyOf name document documented value standing text
        opened).elim
    · rw [unkeyed reader plainReader, Encryptor.openPlain standing] at opened
      exact (Except.ok.inj opened).symm

end BrokerVault.Restart
