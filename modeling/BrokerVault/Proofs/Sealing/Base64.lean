import BrokerVault.Cipher.Base64

/-! Decoding undoes encoding in base64. Whole groups of four symbols and the last group, with its
padding, are taken one after another as the encoder writes them. -/
namespace BrokerVault.Base64

theorem symbolRead : ∀ value < 64, value? (symbol value) = some value := by decide

theorem symbolNotPad : ∀ value < 64, symbol value ≠ pad := by decide

theorem symbolAscii : ∀ value < 64, (symbol value).toNat < 128 := by decide

theorem asciiEncoded : ∀ code < 128,
    String.utf8EncodeChar (Char.ofNat code) = [UInt8.ofNat code] := by decide

theorem ofTextOfAscii (bytes : Bytes) (ascii : ∀ byte ∈ bytes, byte.toNat < 128) :
    Bytes.ofText (String.ofList (bytes.map fun byte => Char.ofNat byte.toNat)) = bytes := by
  have encoded : (bytes.map fun byte => Char.ofNat byte.toNat).flatMap String.utf8EncodeChar =
      bytes := by
    induction bytes with
    | nil => rfl
    | cons byte rest ih =>
      have head := asciiEncoded byte.toNat (ascii byte List.mem_cons_self)
      have tail := ih fun other found => ascii other (List.mem_cons_of_mem _ found)
      rw [List.map_cons, List.flatMap_cons, head, tail, UInt8.ofNat_toNat]
      rfl
  simp only [Bytes.ofText, String.toByteArray_ofList, List.utf8Encode, encoded,
    List.data_toByteArray]

theorem encodedAscii (bytes : Bytes) : ∀ byte ∈ encodeBytes bytes, byte.toNat < 128 := by
  have padAscii : pad.toNat < 128 := by decide
  fun_induction encodeBytes bytes with
  | case1 first second third rest ih =>
    have a := first.toNat_lt
    have b := second.toNat_lt
    have c := third.toNat_lt
    intro byte found
    simp only [List.mem_cons] at found
    rcases found with rfl | rfl | rfl | rfl | found
    · exact symbolAscii _ (by omega)
    · exact symbolAscii _ (by omega)
    · exact symbolAscii _ (by omega)
    · exact symbolAscii _ (by omega)
    · exact ih byte found
  | case2 first second =>
    have a := first.toNat_lt
    have b := second.toNat_lt
    intro byte found
    simp only [List.mem_cons, List.not_mem_nil, or_false] at found
    rcases found with rfl | rfl | rfl | rfl
    · exact symbolAscii _ (by omega)
    · exact symbolAscii _ (by omega)
    · exact symbolAscii _ (by omega)
    · exact padAscii
  | case3 first =>
    have a := first.toNat_lt
    intro byte found
    simp only [List.mem_cons, List.not_mem_nil, or_false] at found
    rcases found with rfl | rfl | rfl | rfl
    · exact symbolAscii _ (by omega)
    · exact symbolAscii _ (by omega)
    · exact padAscii
    · exact padAscii
  | case4 => simp

theorem symbolAtSymbol (value : Nat) (small : value < 64) (offset : Nat) :
    symbolAt offset (symbol value) = .ok value := by
  simp only [symbolAt, symbolRead value small]

theorem lastSymbolsPadded (start index : Nat) (rest : Bytes) (behind : 2 ≤ index)
    (pads : rest.all (· == pad) = true) : lastSymbols start index (pad :: rest) = .ok [] := by
  simp only [lastSymbols, ↓reduceIte, behind, pads, and_self]

theorem lastSymbolsCons (value : Nat) (small : value < 64) (start index : Nat) (rest : Bytes)
    {values : List Nat} (tail : lastSymbols start (index + 1) rest = .ok values) :
    lastSymbols start index (symbol value :: rest) = .ok (value :: values) := by
  simp only [lastSymbols, symbolNotPad value small, ↓reduceIte, symbolAtSymbol value small, tail]
  rfl

theorem groupJoined (first second third : UInt8) :
    UInt8.ofNat (first.toNat / 4 * 4 + (first.toNat % 4 * 16 + second.toNat / 16) / 16) = first ∧
    UInt8.ofNat ((first.toNat % 4 * 16 + second.toNat / 16) % 16 * 16 +
      (second.toNat % 16 * 4 + third.toNat / 64) / 4) = second ∧
    UInt8.ofNat ((second.toNat % 16 * 4 + third.toNat / 64) % 4 * 64 + third.toNat % 64) =
      third := by
  have a := first.toNat_lt
  have b := second.toNat_lt
  have c := third.toNat_lt
  have one : first.toNat / 4 * 4 + (first.toNat % 4 * 16 + second.toNat / 16) / 16 =
      first.toNat := by omega
  have two : (first.toNat % 4 * 16 + second.toNat / 16) % 16 * 16 +
      (second.toNat % 16 * 4 + third.toNat / 64) / 4 = second.toNat := by omega
  have three : (second.toNat % 16 * 4 + third.toNat / 64) % 4 * 64 + third.toNat % 64 =
      third.toNat := by omega
  rw [one, two, three]
  simp only [UInt8.ofNat_toNat, and_self]

theorem decodeLastThree (start : Nat) (first second third : UInt8) :
    decodeLast start (encodeBytes [first, second, third]) = .ok [first, second, third] := by
  have a := first.toNat_lt
  have b := second.toNat_lt
  have c := third.toNat_lt
  have values := lastSymbolsCons (first.toNat / 4) (by omega) start 0 _ <|
    lastSymbolsCons (first.toNat % 4 * 16 + second.toNat / 16) (by omega) start 1 _ <|
    lastSymbolsCons (second.toNat % 16 * 4 + third.toNat / 64) (by omega) start 2 _ <|
    lastSymbolsCons (third.toNat % 64) (by omega) start 3 [] rfl
  simp only [encodeBytes, decodeLast, values, bind, Except.bind]
  obtain ⟨one, two, three⟩ := groupJoined first second third
  rw [one, two, three]

theorem decodeLastTwo (start : Nat) (first second : UInt8) :
    decodeLast start (encodeBytes [first, second]) = .ok [first, second] := by
  have a := first.toNat_lt
  have b := second.toNat_lt
  have values := lastSymbolsCons (first.toNat / 4) (by omega) start 0 _ <|
    lastSymbolsCons (first.toNat % 4 * 16 + second.toNat / 16) (by omega) start 1 _ <|
    lastSymbolsCons (second.toNat % 16 * 4) (by omega) start 2 _ <|
    lastSymbolsPadded start 3 [] (by omega) rfl
  simp only [encodeBytes, decodeLast, values, bind, Except.bind]
  have unused : second.toNat % 16 * 4 % 4 = 0 := by omega
  have one : first.toNat / 4 * 4 + (first.toNat % 4 * 16 + second.toNat / 16) / 16 =
      first.toNat := by omega
  have two : (first.toNat % 4 * 16 + second.toNat / 16) % 16 * 16 + second.toNat % 16 * 4 / 4 =
      second.toNat := by omega
  rw [one, two, unused]
  simp [UInt8.ofNat_toNat]

theorem decodeLastOne (start : Nat) (first : UInt8) :
    decodeLast start (encodeBytes [first]) = .ok [first] := by
  have a := first.toNat_lt
  have values := lastSymbolsCons (first.toNat / 4) (by omega) start 0 _ <|
    lastSymbolsCons (first.toNat % 4 * 16) (by omega) start 1 _ <|
    lastSymbolsPadded start 2 [pad] (by omega) rfl
  simp only [encodeBytes, decodeLast, values, bind, Except.bind]
  have unused : first.toNat % 4 * 16 % 16 = 0 := by omega
  have one : first.toNat / 4 * 4 + first.toNat % 4 * 16 / 16 = first.toNat := by omega
  rw [one, unused]
  simp [UInt8.ofNat_toNat]

theorem encodedLength (bytes : Bytes) : (encodeBytes bytes).length % 4 = 0 := by
  fun_induction encodeBytes bytes with
  | case1 first second third rest ih =>
    simp only [List.length_cons]
    omega
  | case2 => simp
  | case3 => simp
  | case4 => rfl

theorem encodedCons (byte : UInt8) (rest : Bytes) :
    ∃ next following, encodeBytes (byte :: rest) = next :: following := by
  match rest with
  | [] => exact ⟨_, _, rfl⟩
  | [_] => exact ⟨_, _, rfl⟩
  | _ :: _ :: _ => exact ⟨_, _, rfl⟩

theorem decodeFromGroup {start : Nat} {first second third next : UInt8} {following decoded : Bytes}
    (tail : decodeFrom (start + 4) (next :: following) = .ok decoded) :
    decodeFrom start (encodeBytes [first, second, third] ++ next :: following) =
      .ok (first :: second :: third :: decoded) := by
  have a := first.toNat_lt
  have b := second.toNat_lt
  have c := third.toNat_lt
  have firstRead := symbolAtSymbol (first.toNat / 4) (by omega) start
  have secondRead := symbolAtSymbol (first.toNat % 4 * 16 + second.toNat / 16) (by omega)
    (start + 1)
  have thirdRead := symbolAtSymbol (second.toNat % 16 * 4 + third.toNat / 64) (by omega)
    (start + 2)
  have fourthRead := symbolAtSymbol (third.toNat % 64) (by omega) (start + 3)
  simp only [encodeBytes, List.cons_append, List.nil_append, decodeFrom, firstRead, secondRead,
    thirdRead, fourthRead, tail, bind, Except.bind]
  obtain ⟨one, two, three⟩ := groupJoined first second third
  rw [one, two, three]

theorem decodeFromEncoded (bytes : Bytes) (start : Nat) :
    decodeFrom start (encodeBytes bytes) = .ok bytes := by
  induction bytes using encodeBytes.induct generalizing start with
  | case1 first second third rest ih =>
    cases rest with
    | nil => exact decodeLastThree start first second third
    | cons byte rest =>
      obtain ⟨next, following, same⟩ := encodedCons byte rest
      have tail := ih (start + 4)
      rw [same] at tail
      have whole : encodeBytes (first :: second :: third :: byte :: rest) =
          encodeBytes [first, second, third] ++ encodeBytes (byte :: rest) := rfl
      rw [whole, same]
      exact decodeFromGroup tail
  | case2 first second => exact decodeLastTwo start first second
  | case3 first => exact decodeLastOne start first
  | case4 => rfl

theorem decodeEncoded (bytes : Bytes) : decode (encode bytes) = .ok bytes := by
  rw [decode, encode, ofTextOfAscii _ (encodedAscii bytes), decodeBytes]
  cases last : (encodeBytes bytes).getLast? with
  | none =>
    have empty : encodeBytes bytes = [] := List.getLast?_eq_none_iff.1 last
    have read := decodeFromEncoded bytes 0
    rw [empty] at read
    exact read
  | some byte =>
    have whole := encodedLength bytes
    have noSingle : ¬((encodeBytes bytes).length % 4 = 1 ∧ byte ≠ pad ∧ value? byte = none) := by
      omega
    simp only [noSingle, ↓reduceIte]
    exact decodeFromEncoded bytes 0

end BrokerVault.Base64
