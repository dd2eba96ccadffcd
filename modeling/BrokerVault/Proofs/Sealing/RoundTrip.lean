import BrokerVault.Proofs.Sealing.Leaves

/-! Opening undoes sealing, for nested encryptors and in both column formats. Only a plaintext that is
no text, left as it is for a text column, is not sealed. What is sealed is opened by the leaf that
sealed it, and by every encryptor whose search through its leaves comes to that leaf. -/
namespace BrokerVault

namespace CipherSuite

/-- A sealed body is longer than the plaintext by a tag of sixteen bytes. -/
def Tags (suite : CipherSuite) : Prop :=
  ∀ key nonce plaintext body, suite.encrypt key nonce plaintext = .ok body →
    body.length = plaintext.length + 16

variable {suite : CipherSuite} {plaintext : Bytes}

theorem standardTags : standard.Tags := fun _ _ _ _ encrypted => Gcm.encryptedLength encrypted

theorem sealedLength (tags : suite.Tags) {key : Key} {nonce : Option (BytesOf nonceLength)}
    {bytes : Bytes} (ran : suite.sealWith key nonce plaintext = .ok bytes) :
    bytes.length = 12 + plaintext.length + 16 := by
  obtain ⟨drawn, body, _, encrypted, rfl⟩ := sealWithSource ran
  rw [List.length_append, drawn.2, tags _ _ _ _ encrypted, nonceLength, Nat.add_assoc]

end CipherSuite

namespace ColumnValue

def format : ColumnValue → ColumnFormat
  | .blob _ => .blob
  | .text _ => .text

def sealedBytes? : ColumnValue → Option Bytes
  | .blob bytes => some bytes
  | .text content => (Base64.decode content).toOption

theorem ofSealedFormat (format : ColumnFormat) (bytes : Bytes) :
    (ofSealed format bytes).format = format := by
  cases format <;> rfl

theorem plainFormat {format : ColumnFormat} {plaintext : Bytes} {value : ColumnValue}
    (plain : plain? format plaintext = some value) : value.format = format := by
  cases format with
  | blob =>
    cases plain
    rfl
  | text =>
    obtain ⟨text, _, rfl⟩ := Option.map_eq_some_iff.1 plain
    rfl

end ColumnValue

namespace Encryptor

structure Unsealable (encryptor : Encryptor) (format : ColumnFormat) (plaintext : Bytes) : Prop where
  plain : encryptor.sealer = .noop
  column : format = .text
  noText : ∀ text, Bytes.ofText text ≠ plaintext

structure RoundTrips (suite : CipherSuite) (encryptor : Encryptor) (format : ColumnFormat)
    (plaintext : Bytes) (value : ColumnValue) : Prop where
  kind : value.format = format
  leafOpens : encryptor.sealer.openColumn suite value = .ok plaintext
  opens : ∀ before after, encryptor.openers = before ++ encryptor.sealer :: after →
    (∀ earlier ∈ before, ∃ error, earlier.openColumn suite value = .error error) →
    encryptor.openColumn suite value = .ok plaintext
  layout : ∀ label key, encryptor.sealer = .aead label key → ∃ bytes,
    value = .ofSealed format bytes ∧ bytes.length = 12 + plaintext.length + 16

variable {suite : CipherSuite} {encryptor : Encryptor} {format : ColumnFormat} {plaintext : Bytes}

theorem openColumnSearched (suite : CipherSuite) (encryptor : Encryptor) (value : ColumnValue) :
    Searched (fun leaf => leaf.openColumn suite value) encryptor.openers
      (encryptor.openColumn suite value) := by
  cases value with
  | blob bytes => exact openingSearched _ encryptor
  | text text => exact openingSearched _ encryptor

theorem sealNoopRefused (nonce : Option (BytesOf nonceLength))
    (unplain : ColumnValue.plain? format plaintext = none) :
    ∃ detail, noop.sealColumn suite format nonce plaintext = .error (.encoding detail) := by
  cases format with
  | blob => cases unplain
  | text =>
    have unread := Option.map_eq_none_iff.1 unplain
    simp only [sealColumn, encryptText, sealing, plainText, unread, Except.map]
    exact ⟨_, rfl⟩

theorem noTextIff : plaintext.toText? = none ↔ ∀ text, Bytes.ofText text ≠ plaintext := by
  constructor
  · rintro unread text rfl
    cases unread.symm.trans (Bytes.toTextOfText text)
  · intro noText
    exact Option.eq_none_iff_forall_ne_some.2 fun text read =>
      noText text (Bytes.ofTextOfToText read)

theorem unplainIff : ColumnValue.plain? format plaintext = none ↔
    format = .text ∧ ∀ text, Bytes.ofText text ≠ plaintext := by
  rw [← noTextIff]
  cases format <;> simp [ColumnValue.plain?]

theorem openShort (suite : CipherSuite) (label : String) (key : Key) {value : ColumnValue}
    {bytes : Bytes} (holds : value.sealedBytes? = some bytes) (short : bytes.length < 12) :
    (aead label key).openColumn suite value = .error .malformed := by
  have malformed : suite.openWith key bytes = .error .malformed := if_pos short
  cases value with
  | blob bytes =>
    cases holds
    exact malformed
  | text text =>
    cases decoded : Base64.decode text with
    | error fault => simp [ColumnValue.sealedBytes?, decoded, Except.toOption] at holds
    | ok found =>
      simp only [ColumnValue.sealedBytes?, decoded, Except.toOption, Option.some.injEq] at holds
      simp only [openColumn, decryptText, opening, openTextWith, decoded, holds, malformed]

theorem roundTrips (law : suite.OpensSealed) (tags : suite.Tags) {nonce : BytesOf nonceLength}
    {value : ColumnValue}
    (ran : encryptor.sealColumn suite format (some nonce) plaintext = .ok value) :
    RoundTrips suite encryptor format plaintext value := by
  rw [sealSealer] at ran
  have opened := openSealedColumn law encryptor.sealerLeaf ran
  refine ⟨?_, opened, fun before after order rejected => ?_, fun label key keyed => ?_⟩
  · rcases encryptor.sealerCases with plain | ⟨label, key, keyed⟩
    · rw [plain] at ran
      exact ColumnValue.plainFormat (sealNoopSource ran)
    · rw [keyed] at ran
      obtain ⟨bytes, _, rfl⟩ := sealAeadSource ran
      exact ColumnValue.ofSealedFormat format bytes
  · exact (openColumnSearched suite encryptor value).first order rejected opened
  · rw [keyed] at ran
    obtain ⟨bytes, written, rfl⟩ := sealAeadSource ran
    exact ⟨bytes, rfl, CipherSuite.sealedLength tags written⟩

theorem sealTold (seals : suite.Seals plaintext) (encryptor : Encryptor) (format : ColumnFormat)
    (nonce : BytesOf nonceLength) :
    match encryptor.sealColumn suite format (some nonce) plaintext with
    | .error error => Unsealable encryptor format plaintext ∧ ∃ detail, error = .encoding detail
    | .ok _ => ¬Unsealable encryptor format plaintext := by
  rw [sealSealer]
  rcases encryptor.sealerCases with plain | ⟨label, key, keyed⟩
  · rw [plain]
    cases held : ColumnValue.plain? format plaintext with
    | none =>
      obtain ⟨detail, refused⟩ := sealNoopRefused (some nonce) held
      obtain ⟨column, noText⟩ := unplainIff.1 held
      rw [refused]
      exact ⟨⟨plain, column, noText⟩, detail, rfl⟩
    | some value =>
      rw [sealNoopOfPlain held]
      rintro ⟨_, column, noText⟩
      cases held.symm.trans (unplainIff.2 ⟨column, noText⟩)
  · obtain ⟨bytes, written⟩ := seals.bytes key nonce
    rw [keyed, sealAeadOfBytes written]
    rintro ⟨plain, _⟩
    cases keyed.symm.trans plain

/-- Sealing fails for what has no place in its column, and for nothing else; what it gives is opened
again. A key takes nothing shorter than a nonce for sealed. -/
theorem openingUndoesSealing (law : suite.OpensSealed) (tags : suite.Tags)
    (seals : suite.Seals plaintext) (encryptor : Encryptor) (format : ColumnFormat)
    (nonce : BytesOf nonceLength) :
    (match encryptor.sealColumn suite format (some nonce) plaintext with
      | .error error => Unsealable encryptor format plaintext ∧ ∃ detail, error = .encoding detail
      | .ok value => ¬Unsealable encryptor format plaintext ∧
          RoundTrips suite encryptor format plaintext value) ∧
    ∀ label key value bytes, ColumnValue.sealedBytes? value = some bytes → bytes.length < 12 →
      (aead label key).openColumn suite value = .error .malformed := by
  refine ⟨?_, fun label key value bytes => openShort suite label key⟩
  have told := sealTold seals encryptor format nonce
  cases ran : encryptor.sealColumn suite format (some nonce) plaintext with
  | error error =>
    rw [ran] at told
    exact told
  | ok value =>
    rw [ran] at told
    exact ⟨told, roundTrips law tags ran⟩

end Encryptor
end BrokerVault

/-! A document sealed for a text column under a key that stands deep among the decryptors. -/
namespace BrokerVault.NestedKeys

def key : Key := ⟨List.replicate 32 7, List.length_replicate⟩

def nonce : BytesOf nonceLength := ⟨List.replicate 12 1, List.length_replicate⟩

def writer : Encryptor := .aead "new" key

def nothing : Encryptor := .compound .noop []

def encryptor : Encryptor :=
  .compound (.compound writer [.noop]) [nothing, .compound .noop [writer, .noop]]

def document : Bytes := .ofText "{}"

theorem nestedReadsBack : ∃ value bytes,
    encryptor.sealColumn .standard .text (some nonce) document = .ok value ∧
    value = .text (Base64.encode bytes) ∧ bytes.length = 30 ∧
    encryptor.openColumn .standard value = .ok document := by
  have short : document.length ≤ Gcm.greatestLength := by decide
  have told := (Encryptor.openingUndoesSealing CipherSuite.standardOpensSealed
    CipherSuite.standardTags (CipherSuite.standardSealsShort short) encryptor .text nonce).1
  cases ran : encryptor.sealColumn .standard .text (some nonce) document with
  | error error =>
    rw [ran] at told
    cases told.1.plain
  | ok value =>
    rw [ran] at told
    obtain ⟨_, trips⟩ := told
    obtain ⟨bytes, rfl, length⟩ := trips.layout "new" key rfl
    refine ⟨_, bytes, rfl, rfl, length, trips.opens [nothing] [.noop] rfl ?_⟩
    exact List.forall_mem_singleton.2 ⟨_, Encryptor.openCompoundNil .noop _⟩

end BrokerVault.NestedKeys
