import BrokerVault.Proofs.Rotation

/-! What is assumed of the keys and texts that occur in a history, and what follows for a value that
holds a document: whatever reads it reads the document, unless it takes sealed bytes for one. -/
namespace BrokerVault.History

open Reconciliation

structure Scope where
  worlds : Surroundings → Prop
  entries : Password → Prop
  texts : Bytes → Prop

namespace Scope

def Key (scope : Scope) (suite : CipherSuite) (key : Key) : Prop :=
  ∃ entry world, ∃ salt : BytesOf saltLength, scope.entries entry ∧ scope.worlds world ∧
    world.Draws salt ∧ key = suite.deriveKey entry.secret salt.1

def Draws (scope : Scope) (nonce : BytesOf nonceLength) : Prop :=
  ∃ world, scope.worlds world ∧ world.Draws nonce

end Scope

structure Trusted (suite : CipherSuite) (scope : Scope) : Prop where
  /-- What one key seals, no other opens. -/
  exclusive : ∀ key other, scope.Key suite key → scope.Key suite other →
    ∀ text, scope.texts text ∨ text = Canary.plaintext → ∀ nonce, scope.Draws nonce →
    ∀ bytes found, suite.sealWith key (some nonce) text = .ok bytes →
      suite.openWith other bytes = .ok found → other = key
  /-- The texts, as they stand, are nothing that a key opens. -/
  plain : ∀ key, scope.Key suite key → ∀ text, scope.texts text →
    ∀ format value, ColumnValue.plain? format text = some value →
    ∀ label found, (Encryptor.aead label key).openColumn suite value ≠ .ok found
  /-- Sealed texts, as they stand, are no documents. -/
  unlike : ∀ key, scope.Key suite key → ∀ text, scope.texts text → ∀ nonce, scope.Draws nonce →
    ∀ bytes, suite.sealWith key (some nonce) text = .ok bytes →
    ∀ format found, Encryptor.noop.openColumn suite (ColumnValue.ofSealed format bytes) = .ok found →
      Json.checkDocument found ≠ .ok ()

inductive Held (suite : CipherSuite) (scope : Scope) (secrets : String → Option String)
    (credentials : List (Row Credential)) (format : ColumnFormat) (document : Bytes) :
    ColumnValue → Prop where
  | plain {value} (standing : ColumnValue.plain? format document = some value) :
      Held suite scope secrets credentials format document value
  | keyed {row secret nonce bytes} (place : row ∈ credentials) (known : secrets row.id = some secret)
      (drawn : scope.Draws nonce)
      (written : suite.sealWith (suite.deriveKey secret row.value.salt) (some nonce) document =
        .ok bytes) :
      Held suite scope secrets credentials format document (.ofSealed format bytes)

/-- The value opens to the document: as it stands, or under the key that is derived from the secret
and the stored salt of a label. -/
inductive Opens (suite : CipherSuite) (secrets : String → Option String)
    (credentials : List (Row Credential)) (value : ColumnValue) (document : Bytes) : Prop where
  | plain (standing : Encryptor.noop.openColumn suite value = .ok document) :
      Opens suite secrets credentials value document
  | keyed {row secret key} (place : row ∈ credentials) (known : secrets row.id = some secret)
      (derived : suite.derive? secret row.value.salt = .ok key)
      (opened : (Encryptor.aead row.id key).openColumn suite value = .ok document) :
      Opens suite secrets credentials value document

inductive Holder (suite : CipherSuite) (secrets : String → Option String)
    (credentials : List (Row Credential)) : Encryptor → Prop where
  | plain : Holder suite secrets credentials .noop
  | keyed {row secret} (label : String) (place : row ∈ credentials)
      (known : secrets row.id = some secret) :
      Holder suite secrets credentials (.aead label (suite.deriveKey secret row.value.salt))

def Introduced (suite : CipherSuite) (scope : Scope) (secrets : String → Option String)
    (row : Row Credential) : Prop :=
  ∃ entry world key, scope.entries entry ∧ scope.worlds world ∧ Made suite world entry key row ∧
    secrets row.id = some entry.secret

def Reader (suite : CipherSuite) (scope : Scope) (reader : Encryptor) : Prop :=
  reader = .noop ∨ ∃ label key, scope.Key suite key ∧ reader = .aead label key

variable {suite : CipherSuite} {scope : Scope} {secrets : String → Option String}
  {credentials fewer : List (Row Credential)} {format : ColumnFormat} {document : Bytes}
  {value : ColumnValue}

theorem Introduced.key {row : Row Credential} {secret : String}
    (introduced : Introduced suite scope secrets row) (known : secrets row.id = some secret) :
    scope.Key suite (suite.deriveKey secret row.value.salt) := by
  obtain ⟨entry, world, key, occurs, allowed, made, same⟩ := introduced
  rw [same] at known
  cases known
  obtain ⟨salt, drawn, found⟩ := made.salt
  exact ⟨entry, world, salt, occurs, allowed, drawn, by rw [found]⟩

theorem Introduced.derives {row : Row Credential} {secret : String}
    (introduced : Introduced suite scope secrets row) (known : secrets row.id = some secret) :
    suite.derive? secret row.value.salt = .ok (suite.deriveKey secret row.value.salt) := by
  obtain ⟨entry, world, key, occurs, allowed, made, same⟩ := introduced
  rw [same] at known
  cases known
  exact CipherSuite.derivedKey made.derived ▸ made.derived

theorem Introduced.sameKey {row changed : Row Credential}
    (introduced : Introduced suite scope secrets row) (same : Credentials.SameKey row changed) :
    Introduced suite scope secrets changed := by
  obtain ⟨entry, world, key, occurs, allowed, made, known⟩ := introduced
  exact ⟨entry, world, key, occurs, allowed, ⟨same.id.trans made.id, same.salt.symm ▸ made.salt,
    same.salt.symm ▸ made.derived, same.canary.symm ▸ made.canary⟩, same.id.symm ▸ known⟩

theorem Held.opens (law : suite.OpensSealed)
    (introduced : ∀ row ∈ credentials, Introduced suite scope secrets row)
    (held : Held suite scope secrets credentials format document value) :
    Opens suite secrets credentials value document := by
  cases held with
  | plain standing => exact .plain (Encryptor.openPlain standing)
  | keyed place known _ written =>
    refine .keyed place known ((introduced _ place).derives known) ?_
    rw [Encryptor.openAead]
    exact CipherSuite.openSealed law written

theorem Holder.held {writer : Encryptor} (holder : Holder suite secrets credentials writer)
    {world : Surroundings} (allowed : scope.worlds world) {moment : Nat}
    (written : writer.sealColumn suite format (world.random moment nonceLength) document =
      .ok value) :
    Held suite scope secrets credentials format document value := by
  cases holder with
  | plain => exact .plain (Encryptor.sealNoopSource written)
  | keyed label place known =>
    obtain ⟨bytes, sealing, rfl⟩ := Encryptor.sealAeadSource written
    obtain ⟨nonce, _, drawn, _⟩ := CipherSuite.sealWithSource sealing
    rw [drawn] at sealing
    exact .keyed place known ⟨world, allowed, moment, drawn⟩ sealing

theorem Held.readBack (law : suite.OpensSealed) (trusted : Trusted suite scope)
    (introduced : ∀ row ∈ credentials, Introduced suite scope secrets row)
    (text : scope.texts document)
    (held : Held suite scope secrets credentials format document value) {reader : Encryptor}
    (occurs : Reader suite scope reader) {found : Bytes}
    (opened : reader.openColumn suite value = .ok found)
    (checked : Json.checkDocument found = .ok ()) : found = document := by
  rcases occurs with rfl | ⟨label, key, occurs, rfl⟩
  · cases held with
    | plain standing =>
      rw [Encryptor.openPlain standing] at opened
      exact (Except.ok.inj opened).symm
    | keyed place known drawn written =>
      exact absurd checked (trusted.unlike _ ((introduced _ place).key known) document text _ drawn
        _ written format found opened)
  · cases held with
    | plain standing =>
      exact absurd opened (trusted.plain key occurs document text format value standing label found)
    | keyed place known drawn written =>
      rw [Encryptor.openAead] at opened
      have same := trusted.exclusive _ key ((introduced _ place).key known) occurs document
        (.inl text) _ drawn _ found written opened
      rw [same, CipherSuite.openSealed law written] at opened
      exact (Except.ok.inj opened).symm

theorem Held.under (trusted : Trusted suite scope)
    (introduced : ∀ row ∈ credentials, Introduced suite scope secrets row)
    (subset : ∀ row ∈ fewer, row ∈ credentials) (text : scope.texts document)
    (held : Held suite scope secrets credentials format document value) {reader : Encryptor}
    (holder : Holder suite secrets fewer reader) {found : Bytes}
    (opened : reader.openColumn suite value = .ok found)
    (checked : Json.checkDocument found = .ok ()) :
    Held suite scope secrets fewer format document value := by
  cases held with
  | plain standing => exact .plain standing
  | keyed place known drawn written =>
    cases holder with
    | plain =>
      exact absurd checked (trusted.unlike _ ((introduced _ place).key known) document text _ drawn
        _ written format found opened)
    | keyed label kept also =>
      rw [Encryptor.openAead] at opened
      have same := trusted.exclusive _ _ ((introduced _ place).key known)
        ((introduced _ (subset _ kept)).key also) document (.inl text) _ drawn _ found written opened
      exact .keyed kept also drawn (same.symm ▸ written)

def Covered (rows others : List (Row Credential)) : Prop :=
  ∀ row ∈ rows, ∃ other ∈ others, Credentials.SameKey row other

theorem coveredOfMem (subset : ∀ row ∈ fewer, row ∈ credentials) : Covered fewer credentials :=
  fun row place => ⟨row, subset row place, rfl, rfl, rfl⟩

theorem coveredOfPaired {table changed : Table Credential}
    (keys : List.Forall₂ Credentials.SameKey table.rows changed.rows) :
    Covered table.rows changed.rows :=
  fun _ place => pairedLeft keys place

theorem Covered.trans {others : List (Row Credential)} (first : Covered fewer credentials)
    (second : Covered credentials others) : Covered fewer others := by
  intro row place
  obtain ⟨middle, found, same⟩ := first row place
  obtain ⟨other, last, again⟩ := second middle found
  exact ⟨other, last, again.id.trans same.id, again.salt.trans same.salt,
    again.canary.trans same.canary⟩

theorem Held.covered (covered : Covered fewer credentials)
    (held : Held suite scope secrets fewer format document value) :
    Held suite scope secrets credentials format document value := by
  cases held with
  | plain standing => exact .plain standing
  | keyed place known drawn written =>
    obtain ⟨row, found, same⟩ := covered _ place
    exact .keyed found (same.id.symm ▸ known) drawn (same.salt.symm ▸ written)

theorem Holder.covered {writer : Encryptor} (covered : Covered fewer credentials)
    (holder : Holder suite secrets fewer writer) : Holder suite secrets credentials writer := by
  cases holder with
  | plain => exact .plain
  | keyed label place known =>
    obtain ⟨row, found, same⟩ := covered _ place
    exact same.salt ▸ .keyed label found (same.id.symm ▸ known)

theorem Held.agreed {others : String → Option String}
    (same : ∀ row ∈ credentials, others row.id = secrets row.id)
    (held : Held suite scope secrets credentials format document value) :
    Held suite scope others credentials format document value := by
  cases held with
  | plain standing => exact .plain standing
  | keyed place known drawn written => exact .keyed place ((same _ place).trans known) drawn written

theorem Holder.agreed {others : String → Option String} {writer : Encryptor}
    (same : ∀ row ∈ credentials, others row.id = secrets row.id)
    (holder : Holder suite secrets credentials writer) : Holder suite others credentials writer := by
  cases holder with
  | plain => exact .plain
  | keyed label place known => exact .keyed label place ((same _ place).trans known)

theorem Holder.reader {writer : Encryptor}
    (introduced : ∀ row ∈ credentials, Introduced suite scope secrets row)
    (holder : Holder suite secrets credentials writer) : Reader suite scope writer := by
  cases holder with
  | plain => exact .inl rfl
  | keyed label place known => exact .inr ⟨label, _, (introduced _ place).key known, rfl⟩

end BrokerVault.History
