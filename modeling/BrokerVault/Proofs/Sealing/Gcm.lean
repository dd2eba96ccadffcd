import BrokerVault.Cipher.Gcm

/-! Opening undoes sealing in AES-256-GCM, for every key and nonce: the stream that was added is
added once more, and the tag is computed over the same bytes. What is sealed depends on its length
alone. -/
namespace BrokerVault.Gcm

theorem addBytesLength {left right : Bytes} (long : left.length ≤ right.length) :
    (addBytes left right).length = left.length := by
  simp only [addBytes, List.length_zipWith]
  omega

theorem addBytesTwice {left right : Bytes} (long : left.length ≤ right.length) :
    addBytes (addBytes left right) right = left := by
  induction left generalizing right with
  | nil => rfl
  | cons byte left ih =>
    cases right with
    | nil => simp at long
    | cons mask right =>
      have shorter : left.length ≤ right.length := by simpa using long
      have rest := ih shorter
      have head : byte ^^^ mask ^^^ mask = byte := by rw [UInt8.xor_assoc, UInt8.xor_self,
        UInt8.xor_zero]
      simp only [addBytes, List.zipWith_cons_cons] at rest ⊢
      rw [rest, head]

theorem streamLength (schedule : List Aes.Columns) (nonce : Bytes) (blocks : Nat) :
    (stream schedule nonce blocks).length = 16 * blocks := by
  simp only [stream, List.length_flatMap, Aes.columnBytesLength, List.map_const',
    List.length_range, List.sum_replicate_nat]
  omega

theorem streamCovers (schedule : List Aes.Columns) (nonce bytes : Bytes) :
    bytes.length ≤ (stream schedule nonce (blockCount bytes)).length := by
  rw [streamLength, blockCount]
  omega

theorem withStreamLength (schedule : List Aes.Columns) (nonce bytes : Bytes) :
    (withStream schedule nonce bytes).length = bytes.length :=
  addBytesLength (streamCovers schedule nonce bytes)

theorem withStreamTwice (schedule : List Aes.Columns) (nonce bytes : Bytes) :
    withStream schedule nonce (withStream schedule nonce bytes) = bytes := by
  have blocks : blockCount (withStream schedule nonce bytes) = blockCount bytes := by
    rw [blockCount, withStreamLength, blockCount]
  rw [withStream, blocks]
  exact addBytesTwice (streamCovers schedule nonce bytes)

theorem tagLengthEq (schedule : List Aes.Columns) (nonce body : Bytes) :
    (tag schedule nonce body).length = tagLength := Aes.columnBytesLength _

theorem decryptEncrypted {key : Key} {nonce plaintext body : Bytes}
    (encrypted : encrypt key nonce plaintext = .ok body) :
    decrypt key nonce body = some plaintext := by
  unfold encrypt at encrypted
  split at encrypted
  · contradiction
  · rename_i short
    cases encrypted
    have length : (withStream (Aes.keySchedule key) nonce plaintext).length = plaintext.length :=
      withStreamLength _ nonce plaintext
    have tagged := tagLengthEq (Aes.keySchedule key) nonce
      (withStream (Aes.keySchedule key) nonce plaintext)
    simp only [decrypt, List.length_append, tagged, Nat.add_sub_cancel, List.take_left',
      List.drop_left', length, withStreamTwice]
    rw [if_neg (by simp only [tagLength]; omega), if_pos trivial]

theorem encryptShort {plaintext : Bytes} (short : plaintext.length ≤ greatestLength) (key : Key)
    (nonce : Bytes) : ∃ body, encrypt key nonce plaintext = .ok body :=
  ⟨_, if_neg (Nat.not_lt.2 short)⟩

theorem encryptedShort {key : Key} {nonce plaintext body : Bytes}
    (encrypted : encrypt key nonce plaintext = .ok body) : plaintext.length ≤ greatestLength := by
  unfold encrypt at encrypted
  split at encrypted
  · contradiction
  · exact Nat.not_lt.1 ‹_›

theorem encryptedLength {key : Key} {nonce plaintext body : Bytes}
    (encrypted : encrypt key nonce plaintext = .ok body) :
    body.length = plaintext.length + tagLength := by
  unfold encrypt at encrypted
  split at encrypted
  · contradiction
  · cases encrypted
    rw [List.length_append, withStreamLength, tagLengthEq]

end BrokerVault.Gcm
