import BrokerVault.Proofs.Json.Numerals

/-! Printed strings under skipping: no piece of one ends the string or is refused, so skipping stops
behind the closing quote. -/
namespace BrokerVault.Json

def Piece (bytes : Bytes) : Prop :=
  ∀ (fuel : Nat) (rest : Bytes) (position : Position), ∃ spare after,
    skipPieces (fuel + bytes.length) ⟨bytes ++ rest, position⟩ =
      skipPieces (fuel + spare) ⟨rest, after⟩

theorem Piece.nil : Piece [] := fun _ _ position => ⟨0, position, rfl⟩

theorem Piece.append {bytes more : Bytes} (first : Piece bytes) (second : Piece more) :
    Piece (bytes ++ more) := by
  intro fuel rest position
  obtain ⟨spare, middle, passed⟩ := first (fuel + more.length) (more ++ rest) position
  obtain ⟨further, after, followed⟩ := second (fuel + spare) rest middle
  refine ⟨spare + further, after, ?_⟩
  rw [List.length_append, Nat.add_comm bytes.length, ← Nat.add_assoc, List.append_assoc, passed,
    Nat.add_right_comm, followed, Nat.add_assoc]

theorem Piece.plain {byte : UInt8} (printable : 0x20 ≤ byte) (quote : byte ≠ 0x22)
    (backslash : byte ≠ 0x5C) : Piece [byte] := by
  intro fuel rest position
  refine ⟨0, Cursor.past position byte, ?_⟩
  exact (if_neg quote).trans ((if_neg backslash).trans (if_neg (UInt8.not_lt.2 printable)))

theorem Piece.short (letter : UInt8) (escape : (shortEscape? letter).isSome = true) :
    Piece [0x5C, letter] := by
  intro fuel rest position
  refine ⟨1, Cursor.past (Cursor.past position 0x5C) letter, ?_⟩
  have skipped : skipEscape ⟨letter :: rest, Cursor.past position 0x5C⟩ =
      .ok ⟨rest, Cursor.past (Cursor.past position 0x5C) letter⟩ := if_pos escape
  show skipEscape ⟨letter :: rest, _⟩ >>= skipPieces (fuel + 1) = _
  rw [skipped]
  rfl

theorem Piece.unit {first second third fourth : UInt8}
    (digits : ([first, second, third, fourth].mapM fun byte : UInt8 =>
      Bytes.hexValue? (Char.ofNat byte.toNat)).isSome = true) :
    Piece [0x5C, 0x75, first, second, third, fourth] := by
  intro fuel rest position
  obtain ⟨values, read⟩ := Option.isSome_iff_exists.1 digits
  let digits : Cursor :=
    ⟨first :: second :: third :: fourth :: rest, Cursor.past (Cursor.past position 0x5C) 0x75⟩
  have skipped : skipEscape ⟨0x75 :: digits.rest, Cursor.past position 0x5C⟩ =
      .ok ⟨rest, (Cursor.advanceBy 4 digits).position⟩ := by
    have unit : readHexUnit digits =
        .ok (values.foldl (fun value digit => 16 * value + digit) 0,
          ⟨rest, (Cursor.advanceBy 4 digits).position⟩) := by
      simp only [readHexUnit, digits, read]
      rfl
    exact congrArg (Except.map Prod.snd) unit
  refine ⟨5, (Cursor.advanceBy 4 digits).position, ?_⟩
  show skipEscape ⟨0x75 :: digits.rest, _⟩ >>= skipPieces (fuel + 5) = _
  rw [skipped]
  rfl

theorem Piece.run {bytes : Bytes}
    (plain : ∀ byte ∈ bytes, 0x20 ≤ byte ∧ byte ≠ 0x22 ∧ byte ≠ 0x5C) : Piece bytes := by
  induction bytes with
  | nil => exact .nil
  | cons byte bytes ih =>
    obtain ⟨⟨printable, quote, backslash⟩, others⟩ := List.forall_mem_cons.1 plain
    exact Piece.append (.plain printable quote backslash) (ih others)

theorem asciiPlain : ∀ code : Fin 128, 32 ≤ code.val → code.val ≠ 34 → code.val ≠ 92 →
    0x20 ≤ UInt8.ofNat code ∧ UInt8.ofNat code ≠ 0x22 ∧ UInt8.ofNat code ≠ 0x5C := by decide

theorem highPlain {number : Nat} (high : 128 ≤ number) (byte : number < 256) :
    0x20 ≤ UInt8.ofNat number ∧ UInt8.ofNat number ≠ 0x22 ∧ UInt8.ofNat number ≠ 0x5C := by
  have value : (UInt8.ofNat number).toNat = number := UInt8.toNat_ofNat_of_lt' byte
  refine ⟨UInt8.le_iff_toNat_le.2 ?_, fun same => ?_, fun same => ?_⟩
  · rw [value]
    exact Nat.le_trans (by decide) high
  all_goals
    have reached := congrArg UInt8.toNat same
    rw [value] at reached
    subst reached
    exact absurd high (by decide)

theorem encodedPlain {c : Char} (printable : ¬ c < ' ') (quote : c ≠ '"') (backslash : c ≠ '\\') :
    ∀ byte ∈ String.utf8EncodeChar c, 0x20 ≤ byte ∧ byte ≠ 0x22 ∧ byte ≠ 0x5C := by
  intro byte found
  by_cases ascii : c.toNat < 128
  · rw [← Char.ofNat_toNat c, Base64.asciiEncoded _ ascii, List.mem_singleton] at found
    subst found
    exact asciiPlain ⟨c.toNat, ascii⟩ (Nat.le_of_not_lt printable)
      (fun same => quote (Char.toNat_inj.1 same)) fun same => backslash (Char.toNat_inj.1 same)
  · -- Beyond ASCII every byte has its highest bit set.
    have above : ¬ c.val.toNat ≤ 0x7F := by
      have : c.val.toNat = c.toNat := rfl
      omega
    simp only [String.utf8EncodeChar, if_neg above] at found
    split at found <;> try split at found
    all_goals
      simp only [List.mem_cons, List.not_mem_nil, or_false] at found
      rcases found with rfl | rfl | rfl | rfl
      all_goals exact highPlain (by omega) (by omega)

theorem controlEncoded : ∀ code : Fin 32,
    encoded ['\\', 'u', '0', '0', Bytes.hexDigit (code / 16), Bytes.hexDigit (code % 16)] =
        [0x5C, 0x75, 0x30, 0x30, UInt8.ofNat (Bytes.hexDigit (code / 16)).toNat,
          UInt8.ofNat (Bytes.hexDigit (code % 16)).toNat] ∧
      ([0x30, 0x30, UInt8.ofNat (Bytes.hexDigit (code / 16)).toNat,
          UInt8.ofNat (Bytes.hexDigit (code % 16)).toNat].mapM fun byte : UInt8 =>
        Bytes.hexValue? (Char.ofNat byte.toNat)).isSome = true := by decide

theorem charPiece (c : Char) : Piece (encoded (escapedChar c)) := by
  unfold escapedChar
  split
  · rename_i itself
    rcases itself with rfl | rfl
    · exact .short 0x22 (by decide)
    · exact .short 0x5C (by decide)
  rename_i special
  split
  · exact .short 0x62 (by decide)
  split
  · exact .short 0x66 (by decide)
  split
  · exact .short 0x6E (by decide)
  split
  · exact .short 0x72 (by decide)
  split
  · exact .short 0x74 (by decide)
  split
  · rename_i control
    obtain ⟨same, digits⟩ := controlEncoded ⟨c.toNat, control⟩
    rw [same]
    exact .unit digits
  · rename_i printable
    rw [encodedCons]
    exact Piece.append (.run (encodedPlain printable (fun same => special (.inl same))
      fun same => special (.inr same))) .nil

theorem charsPiece (chars : List Char) : Piece (encoded (chars.flatMap escapedChar)) := by
  induction chars with
  | nil => exact .nil
  | cons c chars ih =>
    rw [List.flatMap_cons, encodedAppend]
    exact Piece.append (charPiece c) ih

def quoted (text : String) : Bytes := encoded (text.toList.flatMap escapedChar) ++ [0x22]

theorem ofTextEscaped (text : String) : Bytes.ofText (escaped text) = 0x22 :: quoted text := by
  rw [escaped, ofTextChars, List.cons_append, encodedCons, encodedAppend]
  rfl

theorem stringPasses (text : String) (rest : Bytes) : Passes skipString (quoted text) rest := by
  intro position
  have long : ∃ fuel, (quoted text ++ rest).length + 1 =
      fuel + 1 + (encoded (text.toList.flatMap escapedChar)).length :=
    ⟨rest.length + 1, by simp only [quoted, List.length_append, List.length_singleton]; omega⟩
  obtain ⟨fuel, long⟩ := long
  obtain ⟨spare, middle, passed⟩ :=
    charsPiece text.toList (fuel + 1) (0x22 :: rest) position
  refine ⟨Cursor.past middle 0x22, ?_⟩
  have split : quoted text ++ rest = encoded (text.toList.flatMap escapedChar) ++ 0x22 :: rest := by
    simp [quoted]
  unfold skipString
  rw [long, split, passed, Nat.add_right_comm]
  rfl

end BrokerVault.Json
