import BrokerVault.Proofs.Json.Numerals

/-! Texts and their bytes. A text never has more characters than bytes, and texts in the order of
their characters are in the order of their bytes too: a character encodes to bytes below those of
every greater one, whatever follows either. -/
namespace BrokerVault

open Json (encoded)

theorem lengthAtMostBytes (text : String) : text.length ≤ text.utf8ByteSize := by
  have chars : ∀ chars : List Char, chars.length ≤ (String.ofList chars).utf8ByteSize := by
    intro chars
    induction chars with
    | nil => exact Nat.zero_le _
    | cons char rest ih =>
      have positive := char.utf8Size_pos
      rw [← List.singleton_append, String.ofList_append, String.utf8ByteSize_append,
        List.length_append, List.length_singleton, ← String.singleton_eq_ofList,
        String.utf8ByteSize_singleton]
      omega
  simpa only [String.length_toList, String.ofList_toList] using chars text.toList

theorem charAscends {first second : Char} (less : first < second) (rest other : Bytes) :
    String.utf8EncodeChar first ++ rest < String.utf8EncodeChar second ++ other := by
  have below : first.val.toNat < second.val.toNat := less
  have top : second.val.toNat < 0x110000 := second.valid.elim (by omega) (by omega)
  have byteLess (low high : Nat) :
      UInt8.ofNat low < UInt8.ofNat high ↔ low % 256 < high % 256 := by
    rw [UInt8.lt_iff_toNat_lt, UInt8.toNat_ofNat', UInt8.toNat_ofNat']
  have byteSame (low high : Nat) :
      UInt8.ofNat low = UInt8.ofNat high ↔ low % 256 = high % 256 := by
    rw [← UInt8.toNat_inj, UInt8.toNat_ofNat', UInt8.toNat_ofNat']
  simp only [String.utf8EncodeChar]
  generalize first.val.toNat = low at below ⊢
  generalize second.val.toNat = high at below top ⊢
  -- One case for each pair of lengths; a longer encoding has the greater first byte.
  repeat' split
  all_goals
    simp only [List.cons_append, List.nil_append, List.cons_lt_cons_iff, byteLess, byteSame]
    simp (disch := omega) only [Nat.mod_eq_of_lt]
    omega

theorem charsAscend {first second : List Char} (less : first < second) :
    encoded first < encoded second := by
  induction first generalizing second with
  | nil =>
    cases second with
    | nil => cases less
    | cons c rest =>
      have present : String.utf8EncodeChar c ≠ [] := String.utf8EncodeChar_ne_nil
      rw [Json.encodedCons]
      cases bytes : String.utf8EncodeChar c with
      | nil => exact (present bytes).elim
      | cons byte more => exact List.nil_lt_cons byte _
  | cons c rest ih =>
    cases second with
    | nil => cases less
    | cons d other =>
      rw [Json.encodedCons, Json.encodedCons]
      rcases List.cons_lt_cons_iff.1 less with ahead | ⟨rfl, behind⟩
      · exact charAscends ahead _ _
      · exact List.append_left_lt (ih behind)

theorem bytesAscend {first second : String} (less : first < second) :
    Bytes.ofText first < Bytes.ofText second := by
  have chars (text : String) : Bytes.ofText text = encoded text.toList := by
    rw [← Json.ofTextChars, String.ofList_toList]
  rw [chars, chars]
  exact charsAscend less

end BrokerVault
