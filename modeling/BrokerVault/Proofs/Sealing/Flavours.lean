import BrokerVault.Proofs.Sealing.Base64
import BrokerVault.Proofs.Sealing.Leaves

/-! Text columns beside blob columns. Where no leaf takes a value as it stands, a text is opened to
what the bytes behind its base64 are opened to, and fails as they do. A text that is no base64 is
opened by no leaf, and the last one says why. -/
namespace BrokerVault.Encryptor

inductive Undecoded (fault : Base64.Fault) (leaves : List Encryptor) :
    Except CipherError Bytes → Prop where
  | keyed {label key} (last : leaves.getLast? = some (.aead label key)) :
      Undecoded fault leaves (.error (.encoding fault.message))
  | empty {side} (last : leaves.getLast? = some (.compound side [])) :
      Undecoded fault leaves (.error .rejected)

variable {α : Type} {answer other : Encryptor → Except CipherError α} {leaves : List Encryptor}
  {result told : Except CipherError α} {suite : CipherSuite} {encryptor : Encryptor} {text : String}

theorem Searched.unopened (searched : Searched answer leaves result)
    (rejected : ∀ leaf ∈ leaves, ∃ error, answer leaf = .error error) :
    ∃ last error, leaves.getLast? = some last ∧ answer last = .error error ∧
      result = .error error := by
  cases searched with
  | @found _ leaf _ _ _ accepted =>
    obtain ⟨error, refused⟩ := rejected leaf (by simp)
    cases accepted.symm.trans refused
  | exhausted _ refused => exact ⟨_, _, List.getLast?_concat, refused, rfl⟩

theorem Searched.agreed (first : Searched answer leaves result) (second : Searched other leaves told)
    (same : ∀ leaf ∈ leaves, answer leaf = other leaf) : result = told := by
  have rejects : ∀ {leaf}, leaf ∈ leaves → (∃ error, answer leaf = .error error) →
      ∃ error, other leaf = .error error := fun place ⟨error, refused⟩ =>
    ⟨error, (same _ place).symm.trans refused⟩
  cases first with
  | @found before leaf after plaintext rejected accepted =>
    refine (second.first rfl (fun earlier place => ?_) ?_).symm
    · exact rejects (List.mem_append_left _ place) (rejected earlier place)
    · rw [← same leaf (by simp), accepted]
  | @exhausted before last error rejected refused =>
    have all := (Searched.exhausted rejected refused).rejects
    obtain ⟨also, fault, place, unopened, rfl⟩ := second.unopened fun leaf place =>
      rejects place (all leaf place)
    rw [List.getLast?_concat] at place
    cases place
    exact refused.symm.trans ((same last (by simp)).trans unopened)

theorem openersKeyed (keyed : noop ∉ encryptor.openers) : ∀ leaf ∈ encryptor.openers,
    (∃ label key, leaf = .aead label key) ∨ ∃ side, leaf = .compound side [] := by
  intro leaf place
  rcases openersCases encryptor leaf place with isLeaf | empty
  · cases leaf with
    | aead label key => exact .inl ⟨label, key, rfl⟩
    | noop => exact (keyed place).elim
    | compound => exact isLeaf.elim
  · exact .inr empty

theorem decodedText (keyed : noop ∉ encryptor.openers) {bytes : Bytes}
    (decoded : Base64.decode text = .ok bytes) :
    encryptor.decryptText suite text = encryptor.decrypt suite bytes := by
  refine (openingSearched _ encryptor).agreed (openingSearched _ encryptor) fun leaf place => ?_
  rcases openersKeyed keyed leaf place with ⟨label, key, rfl⟩ | ⟨side, rfl⟩
  · simp only [opening, openTextWith, decoded]
  · rfl

theorem undecodedText (keyed : noop ∉ encryptor.openers) {fault : Base64.Fault}
    (undecoded : Base64.decode text = .error fault) :
    Undecoded fault encryptor.openers (encryptor.decryptText suite text) := by
  have byKey (label : String) (key : Key) : (aead label key).decryptText suite text =
      .error (.encoding fault.message) := by
    simp only [decryptText, opening, openTextWith, undecoded]
  have searched : Searched (fun leaf => leaf.decryptText suite text) encryptor.openers
      (encryptor.decryptText suite text) := openingSearched _ encryptor
  obtain ⟨last, error, place, refused, told⟩ := searched.unopened fun leaf place => by
    rcases openersKeyed keyed leaf place with ⟨label, key, rfl⟩ | ⟨side, rfl⟩
    · exact ⟨_, byKey label key⟩
    · exact ⟨_, rfl⟩
  rw [told]
  rcases openersKeyed keyed last (List.mem_of_getLast? place) with ⟨label, key, rfl⟩ | ⟨side, rfl⟩
  · cases (byKey label key).symm.trans refused
    exact .keyed place
  · cases refused
    exact .empty place

theorem flavoursAgree (suite : CipherSuite) (encryptor : Encryptor)
    (keyed : noop ∉ encryptor.openers) :
    (∀ bytes, encryptor.decryptText suite (Base64.encode bytes) = encryptor.decrypt suite bytes) ∧
    ∀ text fault, Base64.decode text = .error fault →
      Undecoded fault encryptor.openers (encryptor.decryptText suite text) :=
  ⟨fun bytes => decodedText keyed (Base64.decodeEncoded bytes),
    fun _ _ undecoded => undecodedText keyed undecoded⟩

end BrokerVault.Encryptor

/-! An empty compound ahead of a key, and texts that neither opens: one cut short, one no base64. -/
namespace BrokerVault.EmptyAhead

def key : Key := ⟨List.replicate 32 8, List.length_replicate⟩

def nothing : Encryptor := .compound .noop []

def encryptor : Encryptor := .compound .noop [nothing, .compound nothing [.aead "label" key]]

theorem keyed : Encryptor.noop ∉ encryptor.openers := by
  have leaves : encryptor.openers = [nothing, .aead "label" key] := rfl
  simp [leaves, nothing]

theorem cutTextAlike :
    encryptor.decryptText .standard (Base64.encode [1, 2, 3]) = .error .malformed ∧
    encryptor.decryptText .standard "?" = .error (.encoding "Invalid symbol 63, offset 0.") := by
  obtain ⟨same, undecoded⟩ := Encryptor.flavoursAgree .standard encryptor keyed
  refine ⟨same [1, 2, 3], ?_⟩
  have told := undecoded "?" (.symbol 63 0) (by decide)
  cases told with
  | keyed _ => rfl

end BrokerVault.EmptyAhead
