import BrokerVault.Encryptor.Column
import BrokerVault.Proofs.Sealing.Base64
import BrokerVault.Proofs.Sealing.Gcm
import Mathlib.Data.List.Forall2

/-! Sealed values of columns. Under a suite whose opening undoes its sealing, an encryptor that is no
compound opens what it sealed, in either format; and a compound reads what the first of its
decryptors reads that reads anything. -/
namespace BrokerVault

namespace CipherSuite

/-- Opening undoes sealing under the same key. -/
def OpensSealed (suite : CipherSuite) : Prop :=
  ∀ key nonce plaintext body, suite.encrypt key nonce plaintext = .ok body →
    suite.decrypt key nonce body = some plaintext

/-- Whether a plaintext can be sealed is not a matter of key and nonce. -/
def SealsAlike (suite : CipherSuite) : Prop :=
  ∀ key other nonce otherNonce plaintext body, suite.encrypt key nonce plaintext = .ok body →
    ∃ otherBody, suite.encrypt other otherNonce plaintext = .ok otherBody

def Seals (suite : CipherSuite) (plaintext : Bytes) : Prop :=
  ∀ key (nonce : BytesOf nonceLength), ∃ body, suite.encrypt key nonce.1 plaintext = .ok body

theorem standardOpensSealed : standard.OpensSealed :=
  fun _ _ _ _ encrypted => Gcm.decryptEncrypted encrypted

theorem standardSealsAlike : standard.SealsAlike :=
  fun _ _ _ _ _ _ encrypted => Gcm.encryptShort (Gcm.encryptedShort encrypted) _ _

variable {suite : CipherSuite} {plaintext : Bytes}

theorem standardSealsShort (short : plaintext.length ≤ Gcm.greatestLength) :
    standard.Seals plaintext := fun key nonce => Gcm.encryptShort short key nonce.1

theorem Seals.bytes (seals : suite.Seals plaintext) (key : Key) (nonce : BytesOf nonceLength) :
    ∃ bytes, suite.sealWith key (some nonce) plaintext = .ok bytes := by
  obtain ⟨body, encrypted⟩ := seals key nonce
  exact ⟨nonce.1 ++ body, congrArg (Except.map (nonce.1 ++ ·)) encrypted⟩

theorem standardSeals (plaintext : Bytes) (short : plaintext.length ≤ Gcm.greatestLength) (key : Key)
    (nonce : BytesOf nonceLength) :
    ∃ value, standard.sealWith key (some nonce) plaintext = .ok value :=
  (standardSealsShort short).bytes key nonce

theorem sealWithSource {key : Key} {nonce : Option (BytesOf nonceLength)} {plaintext value : Bytes}
    (ran : suite.sealWith key nonce plaintext = .ok value) :
    ∃ drawn body, nonce = some drawn ∧ suite.encrypt key drawn.1 plaintext = .ok body ∧
      value = drawn.1 ++ body := by
  cases nonce with
  | none => cases ran
  | some drawn =>
    simp only [sealWith] at ran
    cases body : suite.encrypt key drawn.1 plaintext with
    | error error => simp [body, Except.map] at ran
    | ok body =>
      simp only [body, Except.map] at ran
      cases ran
      exact ⟨drawn, _, rfl, body, rfl⟩

theorem openSealed (law : suite.OpensSealed) {key : Key} {nonce : Option (BytesOf nonceLength)}
    {plaintext value : Bytes} (ran : suite.sealWith key nonce plaintext = .ok value) :
    suite.openWith key value = .ok plaintext := by
  obtain ⟨drawn, body, rfl, encrypted, rfl⟩ := sealWithSource ran
  have length := drawn.2
  have long : ¬(drawn.1 ++ body).length < nonceLength := by
    rw [List.length_append]
    omega
  simp only [openWith, long, ↓reduceIte, List.take_left' length, List.drop_left' length,
    law _ _ _ _ encrypted]

theorem sealOther (law : suite.SealsAlike) {key other : Key} {nonce : Option (BytesOf nonceLength)}
    {plaintext value : Bytes} (ran : suite.sealWith key nonce plaintext = .ok value)
    (drawn : BytesOf nonceLength) :
    ∃ otherValue, suite.sealWith other (some drawn) plaintext = .ok otherValue := by
  obtain ⟨_, body, _, encrypted, _⟩ := sealWithSource ran
  obtain ⟨otherBody, found⟩ := law key other _ drawn.1 plaintext body encrypted
  exact ⟨drawn.1 ++ otherBody, by simp only [sealWith, found, Except.map]⟩

end CipherSuite

namespace ColumnValue

def plain? (format : ColumnFormat) (plaintext : Bytes) : Option ColumnValue :=
  match format with
  | .blob => some (.blob plaintext)
  | .text => plaintext.toText?.map .text

def ofSealed (format : ColumnFormat) (bytes : Bytes) : ColumnValue :=
  match format with
  | .blob => .blob bytes
  | .text => .text (Base64.encode bytes)

end ColumnValue

namespace Encryptor

def IsLeaf : Encryptor → Prop
  | .compound _ _ => False
  | _ => True

variable {suite : CipherSuite}

@[simp] theorem sealCompound (encryptor : Encryptor) (decryptors : List Encryptor)
    (format : ColumnFormat) (nonce : Option (BytesOf nonceLength)) (plaintext : Bytes) :
    (compound encryptor decryptors).sealColumn suite format nonce plaintext =
      encryptor.sealColumn suite format nonce plaintext := by
  cases format <;> rfl

@[simp] theorem openNoop (value : ColumnValue) : noop.openColumn suite value =
    .ok (match value with | .blob bytes => bytes | .text text => .ofText text) := by
  cases value <;> rfl

theorem sealNoopSource {format : ColumnFormat} {nonce : Option (BytesOf nonceLength)}
    {plaintext : Bytes} {value : ColumnValue}
    (ran : noop.sealColumn suite format nonce plaintext = .ok value) :
    ColumnValue.plain? format plaintext = some value := by
  cases format with
  | blob =>
    cases ran
    rfl
  | text =>
    simp only [sealColumn, encryptText, sealing, plainText] at ran
    cases text : plaintext.toText? with
    | none => simp [text, Except.map] at ran
    | some text =>
      simp only [text, Except.map] at ran
      cases ran
      simp [ColumnValue.plain?, text]

theorem sealNoopOfPlain {format : ColumnFormat} {plaintext : Bytes} {value : ColumnValue}
    (plain : ColumnValue.plain? format plaintext = some value)
    (nonce : Option (BytesOf nonceLength)) :
    noop.sealColumn suite format nonce plaintext = .ok value := by
  cases format with
  | blob =>
    cases plain
    rfl
  | text =>
    obtain ⟨text, read, rfl⟩ := Option.map_eq_some_iff.1 plain
    simp only [sealColumn, encryptText, sealing, plainText, read, Except.map]

theorem sealAeadSource {label : String} {key : Key} {format : ColumnFormat}
    {nonce : Option (BytesOf nonceLength)} {plaintext : Bytes} {value : ColumnValue}
    (ran : (aead label key).sealColumn suite format nonce plaintext = .ok value) :
    ∃ bytes, suite.sealWith key nonce plaintext = .ok bytes ∧
      value = ColumnValue.ofSealed format bytes := by
  cases found : suite.sealWith key nonce plaintext with
  | error error =>
    cases format <;>
      simp [sealColumn, encrypt, encryptText, sealing, found, Except.map] at ran
  | ok bytes =>
    refine ⟨bytes, rfl, ?_⟩
    cases format <;>
      · simp only [sealColumn, encrypt, encryptText, sealing, found, Except.map] at ran
        cases ran
        rfl

theorem sealAeadOfBytes {label : String} {key : Key} {nonce : Option (BytesOf nonceLength)}
    {plaintext bytes : Bytes} (ran : suite.sealWith key nonce plaintext = .ok bytes)
    (format : ColumnFormat) :
    (aead label key).sealColumn suite format nonce plaintext =
      .ok (ColumnValue.ofSealed format bytes) := by
  cases format <;> simp only [sealColumn, encrypt, encryptText, sealing, ran, Except.map] <;> rfl

theorem openAead (label : String) (key : Key) (format : ColumnFormat) (bytes : Bytes) :
    (aead label key).openColumn suite (ColumnValue.ofSealed format bytes) =
      suite.openWith key bytes := by
  cases format with
  | blob => rfl
  | text =>
    simp only [ColumnValue.ofSealed, openColumn, decryptText, opening, openTextWith,
      Base64.decodeEncoded]

theorem openPlain {format : ColumnFormat} {plaintext : Bytes} {value : ColumnValue}
    (plain : ColumnValue.plain? format plaintext = some value) :
    noop.openColumn suite value = .ok plaintext := by
  cases format with
  | blob =>
    cases plain
    rfl
  | text =>
    obtain ⟨text, read, rfl⟩ := Option.map_eq_some_iff.1 plain
    rw [openNoop]
    exact congrArg Except.ok (Bytes.ofTextOfToText read)

theorem openSealedColumn (law : suite.OpensSealed) {encryptor : Encryptor} (leaf : encryptor.IsLeaf)
    {format : ColumnFormat} {nonce : Option (BytesOf nonceLength)} {plaintext : Bytes}
    {value : ColumnValue} (ran : encryptor.sealColumn suite format nonce plaintext = .ok value) :
    encryptor.openColumn suite value = .ok plaintext := by
  cases encryptor with
  | aead label key =>
    obtain ⟨bytes, sealedBytes, rfl⟩ := sealAeadSource ran
    rw [openAead]
    exact CipherSuite.openSealed law sealedBytes
  | noop => exact openPlain (sealNoopSource ran)
  | compound => exact leaf.elim

theorem openCompoundNil (encryptor : Encryptor) (value : ColumnValue) :
    (compound encryptor []).openColumn suite value = .error .rejected := by
  cases value <;> rfl

theorem openCompoundOk {encryptor first : Encryptor} {rest : List Encryptor} {value : ColumnValue}
    {plaintext : Bytes} (read : first.openColumn suite value = .ok plaintext) :
    (compound encryptor (first :: rest)).openColumn suite value = .ok plaintext := by
  cases value <;>
    · simp only [openColumn, decrypt, decryptText] at read
      simp only [openColumn, decrypt, decryptText, opening, openingFirst, read]

theorem openingFirstLast {α : Type} {action : LeafAction α} {encryptors : List Encryptor}
    {plaintext : α} {last : CipherError} (other : CipherError)
    (read : openingFirst action last encryptors = .ok plaintext) :
    openingFirst action other encryptors = .ok plaintext := by
  cases encryptors with
  | nil => cases read
  | cons first rest => exact read

theorem openCompoundError {encryptor first : Encryptor} {rest : List Encryptor}
    {value : ColumnValue} {plaintext : Bytes} {error : CipherError}
    (unread : first.openColumn suite value = .error error) :
    (compound encryptor (first :: rest)).openColumn suite value = .ok plaintext ↔
      (compound encryptor rest).openColumn suite value = .ok plaintext := by
  cases value <;>
    · simp only [openColumn, decrypt, decryptText] at unread
      simp only [openColumn, decrypt, decryptText, opening, openingFirst, unread]
      exact ⟨openingFirstLast _, openingFirstLast _⟩

theorem openCompoundSource {encryptor : Encryptor} {decryptors : List Encryptor}
    {value : ColumnValue} {plaintext : Bytes}
    (read : (compound encryptor decryptors).openColumn suite value = .ok plaintext) :
    ∃ decryptor ∈ decryptors, decryptor.openColumn suite value = .ok plaintext := by
  induction decryptors with
  | nil =>
    rw [openCompoundNil] at read
    cases read
  | cons first rest ih =>
    cases opened : first.openColumn suite value with
    | ok found =>
      rw [openCompoundOk opened] at read
      cases read
      exact ⟨first, List.mem_cons_self, opened⟩
    | error error =>
      obtain ⟨decryptor, place, reads⟩ := ih ((openCompoundError opened).1 read)
      exact ⟨decryptor, List.mem_cons_of_mem _ place, reads⟩

theorem openCompoundOfAgreed {encryptor : Encryptor} {decryptors : List Encryptor}
    {value : ColumnValue} {plaintext : Bytes}
    (present : ∃ decryptor ∈ decryptors, decryptor.openColumn suite value = .ok plaintext)
    (agreed : ∀ decryptor ∈ decryptors, ∀ found, decryptor.openColumn suite value = .ok found →
      found = plaintext) (behind : List Encryptor) :
    (compound encryptor (decryptors ++ behind)).openColumn suite value = .ok plaintext := by
  induction decryptors with
  | nil => simp at present
  | cons first rest ih =>
    cases opened : first.openColumn suite value with
    | ok found =>
      have same := agreed first List.mem_cons_self found opened
      exact openCompoundOk (same ▸ opened)
    | error error =>
      refine (openCompoundError opened).2 (ih ?_ ?_)
      · obtain ⟨decryptor, place, reads⟩ := present
        rcases List.mem_cons.1 place with rfl | place
        · rw [opened] at reads
          cases reads
        · exact ⟨decryptor, place, reads⟩
      · exact fun decryptor place => agreed decryptor (List.mem_cons_of_mem _ place)

theorem openCompoundWriter (encryptor other : Encryptor) (decryptors : List Encryptor)
    (value : ColumnValue) :
    (compound encryptor decryptors).openColumn suite value =
      (compound other decryptors).openColumn suite value := by
  cases value <;> rfl

theorem openCompoundAlike {encryptor : Encryptor} {decryptors others : List Encryptor}
    {value : ColumnValue} {plaintext : Bytes}
    (alike : List.Forall₂ (fun decryptor other => ∀ plaintext,
      decryptor.openColumn suite value = .ok plaintext ↔ other.openColumn suite value = .ok plaintext)
      decryptors others) :
    (compound encryptor decryptors).openColumn suite value = .ok plaintext ↔
      (compound encryptor others).openColumn suite value = .ok plaintext := by
  induction alike with
  | nil => exact Iff.rfl
  | @cons first other rest following head _ ih =>
    cases opened : first.openColumn suite value with
    | ok found =>
      rw [openCompoundOk opened, openCompoundOk ((head found).1 opened)]
    | error error =>
      cases otherOpened : other.openColumn suite value with
      | ok found =>
        rw [(head found).2 otherOpened] at opened
        cases opened
      | error otherError =>
        rw [openCompoundError opened, openCompoundError otherOpened]
        exact ih

theorem openingFirstSame {α : Type} {action : LeafAction α} {decryptors others : List Encryptor}
    (same : List.Forall₂ (fun decryptor other => decryptor.opening action = other.opening action)
      decryptors others) (last : CipherError) :
    openingFirst action last decryptors = openingFirst action last others := by
  induction same generalizing last with
  | nil => rfl
  | @cons first other _ _ head _ ih =>
    rw [openingFirst, openingFirst, head]
    cases other.opening action with
    | ok plaintext => rfl
    | error error => exact ih error

theorem openCompoundSame {encryptor other : Encryptor} {decryptors others : List Encryptor}
    {value : ColumnValue}
    (same : List.Forall₂ (fun decryptor other =>
      decryptor.openColumn suite value = other.openColumn suite value) decryptors others) :
    (compound encryptor decryptors).openColumn suite value =
      (compound other others).openColumn suite value := by
  cases value with
  | blob bytes => exact openingFirstSame same .rejected
  | text text => exact openingFirstSame same .rejected

theorem openWithRefused {key : Key} {bytes : Bytes}
    (refused : ∀ text, suite.openWith key bytes ≠ .ok text) :
    suite.openWith key bytes =
      .error (if bytes.length < nonceLength then .malformed else .rejected) := by
  rw [CipherSuite.openWith] at refused ⊢
  split
  · rfl
  · rename_i long
    rw [if_neg long] at refused
    cases opened : suite.decrypt key (bytes.take nonceLength) (bytes.drop nonceLength) with
    | none => rfl
    | some plaintext =>
      rw [opened] at refused
      exact (refused plaintext rfl).elim

theorem openAeadRefused {label : String} {key other : Key} {value : ColumnValue}
    (one : ∀ text, (aead label key).openColumn suite value ≠ .ok text)
    (two : ∀ text, (aead label other).openColumn suite value ≠ .ok text) :
    (aead label key).openColumn suite value = (aead label other).openColumn suite value := by
  cases value with
  | blob bytes => exact (openWithRefused one).trans (openWithRefused two).symm
  | text text =>
    change ∀ found, openTextWith suite key text ≠ .ok found at one
    change ∀ found, openTextWith suite other text ≠ .ok found at two
    change openTextWith suite key text = openTextWith suite other text
    rw [openTextWith] at one two ⊢
    rw [openTextWith]
    cases decoded : Base64.decode text with
    | error fault => rfl
    | ok bytes =>
      rw [decoded] at one two
      exact (openWithRefused one).trans (openWithRefused two).symm

end Encryptor
end BrokerVault
