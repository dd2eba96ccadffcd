import BrokerVault.Proofs.Completion
import BrokerVault.Proofs.Sealing.RoundTrip

/-! Rewriting after a verification that found nothing. Every value opens then, and a key seals what
was opened. Only an encryptor that leaves values as they are can fail, at the first document of the
text column that is no text. -/
namespace BrokerVault

namespace Encryptor

theorem sealRefused {encryptor : Encryptor} {format : ColumnFormat}
    {nonce : BytesOf nonceLength} {plaintext : Bytes} {cause : CipherError}
    (short : plaintext.length ≤ Gcm.greatestLength)
    (refused : encryptor.sealColumn .standard format (some nonce) plaintext = .error cause) :
    encryptor.sealer.isNoop ∧ format = .text ∧ plaintext.toText? = none ∧
      ∃ detail, cause = .encoding detail := by
  have told := sealTold (CipherSuite.standardSealsShort short) encryptor format nonce
  rw [refused] at told
  obtain ⟨⟨plain, column, noText⟩, detail⟩ := told
  exact ⟨plain ▸ rfl, column, noTextIff.2 noText, detail⟩

end Encryptor

namespace Reencryption

def document? (suite : CipherSuite) (encryptor : Encryptor) (name : ProtectedTable)
    (row : Row Cell) : Option Bytes :=
  match row.value.read name with
  | .ok (some value) => (encryptor.readDocument suite value).toOption
  | .ok none | .error _ => none

def unfit (suite : CipherSuite) (encryptor : Encryptor) (row : Row Cell) : Bool :=
  (document? suite encryptor .requestDetails row).any (·.toText?.isNone)

def firstUnfit? (suite : CipherSuite) (encryptor : Encryptor) (database : Database) :
    Option (Row Cell) :=
  (database.table? .requestDetails).bind fun stored =>
    stored.rows.find? fun row => 0 < row.rowid ∧ unfit suite encryptor row

variable {suite : CipherSuite} {encryptor : Encryptor} {world : Surroundings}
  {name : ProtectedTable} {vault after : Vault} {database : Database}

theorem documentRead {row : Row Cell} {value : ColumnValue} {plaintext : Bytes}
    (held : row.value.read name = .ok (some value))
    (read : encryptor.readDocument suite value = .ok plaintext) :
    document? suite encryptor name row = some plaintext := by
  rw [document?, held]
  simp only [read, Except.toOption]

theorem firstUnfitAt {stored : Table Cell} {before behind : List (Row Cell)} {row : Row Cell}
    (table : database.table? .requestDetails = some stored)
    (layout : stored.after 0 = before ++ row :: behind) (bad : unfit suite encryptor row)
    (fine : ∀ other ∈ before, unfit suite encryptor other = false) :
    firstUnfit? suite encryptor database = some row := by
  have visited : (stored.after 0).find? (unfit suite encryptor) = some row := by
    rw [layout]
    exact List.find?_eq_some_iff_append.2
      ⟨bad, before, behind, rfl, fun other place => by simp [fine other place]⟩
  rw [firstUnfit?, table]
  rw [Table.after, List.find?_filter] at visited
  simpa using visited

theorem firstUnfitMember {row : Row Cell}
    (found : firstUnfit? suite encryptor database = some row) :
    ∃ stored, database.table? .requestDetails = some stored ∧ row ∈ stored.rows ∧ 0 < row.rowid ∧
      unfit suite encryptor row := by
  obtain ⟨stored, table, found⟩ := Option.bind_eq_some_iff.1 found
  have which := List.find?_some found
  simp only [decide_eq_true_eq] at which
  exact ⟨stored, table, List.mem_of_find?_eq_some found, which⟩

theorem resealedFit (plain : encryptor.sealer.isNoop) {row changed : Row Cell}
    (resealed : Resealed suite encryptor world .requestDetails row changed) :
    unfit suite encryptor row = false := by
  cases resealed with
  | null empty => simp [unfit, document?, readNull.2 empty]
  | value held opened written =>
    rw [Encryptor.sealSealer] at written
    rcases encryptor.sealerCases with noop | ⟨label, key, keyed⟩
    · rw [noop] at written
      obtain ⟨text, read, _⟩ := Option.map_eq_some_iff.1 (Encryptor.sealNoopSource written)
      simp [unfit, documentRead held opened, read]
    · simp [keyed, Encryptor.isNoop] at plain

theorem rewriteAllWritten (plain : encryptor.sealer.isNoop) {count : Nat}
    (ran : rewriteAll suite encryptor world vault = (.ok count, after)) :
    firstUnfit? suite encryptor vault.database = none := by
  rw [Option.eq_none_iff_forall_ne_some]
  intro row found
  obtain ⟨stored, table, place, visited, bad⟩ := firstUnfitMember found
  obtain ⟨_, _, tables⟩ := rewriteAllWhole ran
  obtain ⟨also, changed, known, _, rows⟩ := tables .requestDetails
  cases table.symm.trans known
  obtain ⟨resealed, _, early | ⟨_, step⟩⟩ := pairedLeft rows place
  · omega
  · rw [resealedFit plain step] at bad
    cases bad

theorem blockedUnfit
    (short : ∀ name stored, database.table? name = some stored → ∀ row ∈ stored.rows, ∀ plaintext,
      document? .standard encryptor name row = some plaintext →
        plaintext.length ≤ Gcm.greatestLength) {error : ReencryptError}
    (blocked : Blocked .standard encryptor world database error) :
    encryptor.sealer.isNoop ∧ ∃ row detail, firstUnfit? .standard encryptor database = some row ∧
      error = .encrypt .requestDetails row.id (.encoding detail) := by
  cases blocked with
  | @intro name stored earlier row later _ plaintext _ nonce table layout before held read refused =>
    have document := documentRead held read
    have visited : row ∈ stored.after 0 := by simp [layout]
    have place := (Table.memAfter.1 visited).1
    obtain ⟨plain, format, unread, detail, rfl⟩ :=
      Encryptor.sealRefused (short name stored table row place plaintext document) refused
    have column : name = .requestDetails := by
      cases name <;> simp_all [ProtectedTable.format]
    subst column
    refine ⟨plain, row, detail, firstUnfitAt table layout ?_ fun other place => ?_, rfl⟩
    · simp [unfit, document, unread]
    · obtain ⟨changed, step⟩ := before other place
      exact resealedFit plain step

/-- After a verification that found nothing, a rewrite fails at the first unfit row, and only if it
writes values as they are. -/
theorem verifiedRewrites (encryptor : Encryptor) {world : Surroundings} (calm : world.Calm)
    {vault : Vault} (verified : (verifyAll .standard encryptor world vault).1 = .ok [])
    (short : ∀ name stored, vault.database.table? name = some stored → ∀ row ∈ stored.rows,
      ∀ plaintext, document? .standard encryptor name row = some plaintext →
        plaintext.length ≤ Gcm.greatestLength) :
    match if encryptor.sealer.isNoop then firstUnfit? .standard encryptor vault.database else none with
    | none => ∃ count, (rewriteAll .standard encryptor world vault).1 = .ok count
    | some row => ∃ detail, (rewriteAll .standard encryptor world vault).1 =
        .error (.encrypt .requestDetails row.id (.encoding detail)) := by
  have readable := Verification.failuresNil.1 verified
  cases ran : rewriteAll .standard encryptor world vault with
  | mk result after =>
    cases result with
    | ok count =>
      have none : (if encryptor.sealer.isNoop then firstUnfit? .standard encryptor vault.database
          else none) = none := by
        split
        · exact rewriteAllWritten ‹_› ran
        · rfl
      rw [none]
      exact ⟨count, rfl⟩
    | error error =>
      have blocked := rewriteAllBlocked calm readable ran
      obtain ⟨plain, row, detail, first, rfl⟩ := blockedUnfit short blocked
      rw [if_pos plain, first]
      exact ⟨detail, rfl⟩

end Reencryption
namespace GarbledRequest

open Reencryption

def plaintext : Bytes := [0x22, 0xFF, 0x22]

def key : Key := ⟨List.replicate 32 0, List.length_replicate⟩

def encryptor : Encryptor := .compound .noop [.aead "first" key]

def garbled (bytes : Bytes) : Row Cell := ⟨2, "garbled", .text (Base64.encode bytes)⟩

def requests (bytes : Bytes) : Table Cell :=
  ⟨[⟨1, "empty", .null⟩, garbled bytes], by simp [garbled], by simp [garbled]⟩

def vault (bytes : Bytes) : Vault :=
  .ofDatabase (Database.empty.setTable .requestDetails (some (requests bytes)))

theorem rowKnown {bytes : Bytes} {name : ProtectedTable} {stored : Table Cell} {row : Row Cell}
    (table : (vault bytes).database.table? name = some stored) (place : row ∈ stored.rows) :
    row.value = .null ∨ name = .requestDetails ∧ row = garbled bytes := by
  cases name with
  | requestDetails =>
    cases table
    rcases List.mem_cons.1 place with rfl | place
    · exact .inl rfl
    · exact .inr ⟨rfl, List.mem_singleton.1 place⟩
  | instanceDetails | bindingCredentials | workspaces =>
    cases table
    cases place

theorem garbledReads {bytes : Bytes}
    (written : CipherSuite.standard.sealWith key (some ⟨List.replicate 12 0, rfl⟩) plaintext =
      .ok bytes) :
    encryptor.readDocument .standard (.text (Base64.encode bytes)) = .ok plaintext := by
  have opened : (Encryptor.aead "first" key).openColumn .standard (.text (Base64.encode bytes)) =
      .ok plaintext :=
    (Encryptor.openAead "first" key .text bytes).trans
      (CipherSuite.openSealed CipherSuite.standardOpensSealed written)
  exact Encryptor.readDocumentOk.2 ⟨Encryptor.openCompoundOk opened, by decide⟩

theorem garbledRequestBlocks : ∃ vault,
    (verifyAll .standard encryptor FirstSetup.world vault).1 = .ok [] ∧ ∃ detail,
      (rewriteAll .standard encryptor FirstSetup.world vault).1 =
        .error (.encrypt .requestDetails "garbled" (.encoding detail)) := by
  obtain ⟨bytes, written⟩ := CipherSuite.standardSeals plaintext (by decide) key
    ⟨List.replicate 12 0, rfl⟩
  have reads := garbledReads written
  have holds : document? .standard encryptor .requestDetails (garbled bytes) = some plaintext :=
    documentRead rfl reads
  have verified : (verifyAll .standard encryptor FirstSetup.world (vault bytes)).1 = .ok [] := by
    refine Verification.failuresNil.2 fun name => ?_
    obtain ⟨stored, table⟩ : ∃ stored, (vault bytes).database.table? name = some stored := by
      cases name <;> exact ⟨_, rfl⟩
    refine ⟨stored, table, fun row place => ?_⟩
    rcases rowKnown table (Table.memAfter.1 place).1 with null | ⟨rfl, rfl⟩
    · exact .inl null
    · exact .inr ⟨_, _, rfl, reads⟩
  refine ⟨vault bytes, verified, ?_⟩
  have told := verifiedRewrites encryptor FirstSetup.calm verified ?_
  · have first : firstUnfit? .standard encryptor (vault bytes).database = some (garbled bytes) := by
      have layout : (requests bytes).after 0 = [⟨1, "empty", .null⟩] ++ garbled bytes :: [] := rfl
      have untold : plaintext.toText? = none := by decide
      refine firstUnfitAt rfl layout (by simp [unfit, holds, untold]) fun other place => ?_
      cases List.mem_singleton.1 place
      rfl
    have plain : encryptor.sealer.isNoop = true := rfl
    rw [if_pos plain, first] at told
    exact told
  · intro name stored table row place found document
    rcases rowKnown table place with null | ⟨rfl, rfl⟩
    · simp [document?, readNull.2 null] at document
    · cases holds.symm.trans document
      decide

end GarbledRequest
end BrokerVault
