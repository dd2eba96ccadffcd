import BrokerVault.Proofs.Json.Strings
import BrokerVault.Proofs.Json.Tracking

/-! Printed scalars under reading. An integer of 64 bits is read as the integer that was printed,
and a string piece by piece as the text that was printed. -/
namespace BrokerVault.Json

def Reads {α : Type} (read : Cursor → Except Error (α × Cursor)) (bytes : Bytes)
    (value : α) : Prop :=
  ∀ rest position, Ends rest →
    ∃ after, read ⟨bytes ++ rest, position⟩ = .ok (value, ⟨rest, after⟩)

/-! Integers. -/

def decimal (digits : List Nat) (significand : Nat) : Nat :=
  digits.foldl (fun value digit => 10 * value + digit) significand

theorem decimalCons (digit : Nat) (digits : List Nat) (significand : Nat) :
    decimal (digit :: digits) significand = decimal digits (10 * significand + digit) := rfl

theorem decimalAtLeast (digits : List Nat) (significand : Nat) :
    significand ≤ decimal digits significand := by
  induction digits generalizing significand with
  | nil => exact Nat.le_refl _
  | cons digit digits ih =>
    have := ih (10 * significand + digit)
    rw [decimalCons]
    omega

theorem accumulateAll {digits : List Nat} {significand : Nat}
    (fits : decimal digits significand < Nat.pow 2 64) :
    accumulate significand digits = (decimal digits significand, 0) := by
  induction digits generalizing significand with
  | nil => rfl
  | cons digit digits ih =>
    rw [decimalCons] at fits ⊢
    have room := Nat.lt_of_le_of_lt (decimalAtLeast digits _) fits
    rw [accumulate, if_pos room, ih fits]

def digitOf (c : Char) : Nat := c.toNat - 48

theorem encodedDigitOf {c : Char} (digit : c.isDigit = true) :
    ∃ byte, String.utf8EncodeChar c = [byte] ∧ Cursor.isDigit byte = true ∧
      Cursor.digitValue byte = digitOf c := by
  have range := Char.isDigit_iff_toNat.1 digit
  have low : 48 ≤ c.toNat := range.1
  have high : c.toNat ≤ 57 := range.2
  have codes : ∀ code < 58, 48 ≤ code → Cursor.isDigit (UInt8.ofNat code) = true ∧
      Cursor.digitValue (UInt8.ofNat code) = code - 48 := by decide
  obtain ⟨shown, value⟩ := codes c.toNat (by omega) low
  refine ⟨UInt8.ofNat c.toNat, ?_, shown, value⟩
  rw [← Base64.asciiEncoded c.toNat (by omega), Char.ofNat_toNat]

theorem digitsRead {rest : Bytes}
    (stops : ∀ byte, rest.head? = some byte → Cursor.isDigit byte = false) (chars : List Char)
    (all : ∀ c ∈ chars, c.isDigit = true) (position : Position) :
    ∃ after, Cursor.digits ⟨encoded chars ++ rest, position⟩ =
      (chars.map digitOf, ⟨rest, after⟩) := by
  induction chars generalizing position with
  | nil =>
    refine ⟨position, ?_⟩
    cases rest with
    | nil => rfl
    | cons byte rest => simp [Cursor.digits, encoded, Cursor.digitsFrom, stops byte rfl]
  | cons c chars ih =>
    obtain ⟨head, all⟩ := List.forall_mem_cons.1 all
    obtain ⟨byte, single, digit, value⟩ := encodedDigitOf head
    obtain ⟨after, taken⟩ := ih all (Cursor.past position byte)
    have following : Cursor.digitsFrom (encoded chars ++ rest) (Cursor.past position byte) =
        (chars.map digitOf, ⟨rest, after⟩) := taken
    refine ⟨after, ?_⟩
    simp [encodedCons, single, Cursor.digits, Cursor.digitsFrom, digit, following, value]

theorem decimalToDigits (number : Nat) :
    decimal ((Nat.toDigits 10 number).map digitOf) 0 = number := by
  rw [decimal, List.foldl_map]
  exact Nat.ofDigitChars_eq_foldl.symm.trans Nat.ofDigitChars_ten_toDigits

variable {rest : Bytes} {number : Nat}

theorem afterDigits (ends : Ends rest) (positive : Bool) (fits : number < Nat.pow 2 64)
    (position : Position) :
    readAfterDigits ⟨rest, position⟩ positive ((Nat.toDigits 10 number).map digitOf) =
      if positive then .ok (.integer number, ⟨rest, position⟩)
      else if number = 0 ∨ Nat.pow 2 63 < number then numberOf ⟨rest, position⟩ false number 0
      else .ok (.integer (-number), ⟨rest, position⟩) := by
  have taken : accumulate 0 ((Nat.toDigits 10 number).map digitOf) = (number, 0) := by
    have all := decimalToDigits number
    rw [accumulateAll (all.symm ▸ fits), all]
  unfold readAfterDigits
  rw [taken]
  cases next : Cursor.next? ⟨rest, position⟩ with
  | none => rfl
  | some byte =>
    obtain ⟨_, point, lower, upper⟩ := ends byte next
    have letter : isExponentLetter byte = false := by simp [isExponentLetter, lower, upper]
    simp only [if_neg point, letter]
    rfl

theorem unsignedRead (ends : Ends rest) (positive : Bool) (number : Nat) (position : Position) :
    ∃ after, readUnsigned ⟨encoded (Nat.toDigits 10 number) ++ rest, position⟩ positive =
      readAfterDigits ⟨rest, after⟩ positive ((Nat.toDigits 10 number).map digitOf) := by
  by_cases zero : number = 0
  · refine ⟨Cursor.past position 0x30, ?_⟩
    have stops : (rest.head?.map Cursor.isDigit).getD false = false := by
      cases next : rest.head? with
      | none => rfl
      | some byte => simp [(ends byte next).1]
    rw [zero, Nat.toDigits_zero]
    show (if (rest.head?.map Cursor.isDigit).getD false then _ else _) = _
    rw [stops]
    rfl
  · obtain ⟨first, others, same, leading⟩ := toDigitsLeading zero
    have all := toDigitsAll number
    obtain ⟨byte, single, digit, nonzero⟩ := encodedDigit (all first (by simp [same]))
    obtain ⟨after, taken⟩ := digitsRead (fun byte next => (ends byte next).1) _ all position
    refine ⟨after, ?_⟩
    rw [readUnsigned, taken]
    rw [same, encodedCons, single]
    exact (if_neg (nonzero leading)).trans (if_pos digit)

def Within64 (value : Int) : Prop := -(Nat.pow 2 63 : Nat) ≤ value ∧ value < (Nat.pow 2 64 : Nat)

instance (value : Int) : Decidable (Within64 value) := inferInstanceAs (Decidable (_ ∧ _))

theorem unsignedFirst (number : Nat) (rest : Bytes) (position : Position) :
    Cursor.next? ⟨encoded (Nat.toDigits 10 number) ++ rest, position⟩ ≠ some 0x2D := by
  have all := toDigitsAll number
  obtain ⟨first, others, same⟩ := List.exists_cons_of_ne_nil
    (Nat.toDigits_ne_nil (n := number) (b := 10))
  obtain ⟨byte, single, digit, _⟩ := encodedDigit (all first (by simp [same]))
  rw [same, encodedCons, single]
  intro minus
  cases minus
  cases digit

theorem integerReads {value : Int} (within : Within64 value) :
    Reads readNumber (Bytes.ofText (toString value)) (.integer value) := by
  intro rest position ends
  obtain ⟨low, high⟩ := within
  have larger : Nat.pow 2 63 < Nat.pow 2 64 := by decide
  rw [Int.toString_eq_repr, Int.repr_eq_if]
  split
  · rename_i natural
    have fits : value.toNat < Nat.pow 2 64 := by omega
    obtain ⟨after, read⟩ := unsignedRead ends true value.toNat position
    refine ⟨after, ?_⟩
    rw [Nat.repr_eq_ofList_toDigits, ofTextChars, readNumberSigned, if_neg (unsignedFirst _ _ _),
      read, afterDigits ends true fits, if_pos rfl, Int.toNat_of_nonneg natural]
  · rename_i negative
    have fits : (-value).toNat < Nat.pow 2 64 := by omega
    have inRange : ¬((-value).toNat = 0 ∨ Nat.pow 2 63 < (-value).toNat) := by omega
    have minus : Bytes.ofText "-" = [0x2D] := by decide
    obtain ⟨after, read⟩ := unsignedRead ends false (-value).toNat (Cursor.past position 0x2D)
    have restored : -((-value).toNat : Int) = value := by omega
    rw [afterDigits ends false fits, if_neg Bool.false_ne_true, if_neg inRange, restored] at read
    refine ⟨after, ?_⟩
    rw [ofTextAppend, minus, Nat.repr_eq_ofList_toDigits, ofTextChars, readNumberSigned]
    exact (if_pos rfl).trans read

/-! Strings. -/

/-- Reading the pieces of a string goes past the bytes and has the content behind what was read
before, in no more steps than there are bytes. -/
def Spells (bytes content : Bytes) : Prop :=
  ∀ (done : Bytes) (fuel : Nat) (rest : Bytes) (position : Position), ∃ spare after,
    readPieces done (fuel + bytes.length) ⟨bytes ++ rest, position⟩ =
      readPieces (content.reverse ++ done) (fuel + spare) ⟨rest, after⟩

namespace Spells

theorem nil : Spells [] [] := fun _ _ _ position => ⟨0, position, rfl⟩

theorem append {bytes more content further : Bytes} (first : Spells bytes content)
    (second : Spells more further) : Spells (bytes ++ more) (content ++ further) := by
  intro done fuel rest position
  obtain ⟨spare, middle, read⟩ := first done (fuel + more.length) (more ++ rest) position
  obtain ⟨left, after, followed⟩ := second (content.reverse ++ done) (fuel + spare) rest middle
  refine ⟨spare + left, after, ?_⟩
  rw [List.length_append, Nat.add_comm bytes.length, ← Nat.add_assoc, List.append_assoc, read,
    Nat.add_right_comm, followed, Nat.add_assoc, List.reverse_append, List.append_assoc]

theorem plain {byte : UInt8} (printable : 0x20 ≤ byte) (quote : byte ≠ 0x22)
    (backslash : byte ≠ 0x5C) : Spells [byte] [byte] := by
  intro done fuel rest position
  refine ⟨0, Cursor.past position byte, ?_⟩
  have piece : readPiece ⟨byte :: rest, position⟩ =
      .ok (some [byte], ⟨rest, Cursor.past position byte⟩) :=
    (if_neg quote).trans ((if_neg backslash).trans (if_neg (UInt8.not_lt.2 printable)))
  show (readPiece ⟨byte :: rest, position⟩ >>= _) = _
  rw [piece]
  rfl

theorem escape {letters content : Bytes}
    (read : ∀ rest position, ∃ after,
      readEscape ⟨letters ++ rest, position⟩ = .ok (content, ⟨rest, after⟩)) :
    Spells (0x5C :: letters) content := by
  intro done fuel rest position
  obtain ⟨after, read⟩ := read rest (Cursor.past position 0x5C)
  refine ⟨letters.length, after, ?_⟩
  have piece : readPiece ⟨0x5C :: (letters ++ rest), position⟩ =
      .ok (some content, ⟨rest, after⟩) := by
    show (readEscape ⟨letters ++ rest, Cursor.past position 0x5C⟩ >>= _) = _
    rw [read]
    rfl
  show (readPiece ⟨0x5C :: (letters ++ rest), position⟩ >>= _) = _
  rw [piece]
  rfl

theorem short (letter : UInt8) {byte : UInt8} (stands : shortEscape? letter = some byte) :
    Spells [0x5C, letter] [byte] := by
  refine escape fun rest position => ⟨Cursor.past position letter, ?_⟩
  simp only [readEscape, Cursor.next?, List.cons_append, List.nil_append, List.head?_cons, stands]
  rfl

theorem unit {first second third fourth : UInt8} {values : List Nat} {unit : Nat}
    (digits : ([first, second, third, fourth].mapM fun byte : UInt8 =>
      Bytes.hexValue? (Char.ofNat byte.toNat)) = some values)
    (value : values.foldl (fun value digit => 16 * value + digit) 0 = unit)
    (single : isTrailingSurrogate unit = false ∧ isLeadingSurrogate unit = false) :
    Spells [0x5C, 0x75, first, second, third, fourth]
      (String.utf8EncodeChar (Char.ofNat unit)) := by
  refine escape fun rest position => ?_
  let place : Cursor := ⟨first :: second :: third :: fourth :: rest, Cursor.past position 0x75⟩
  have read : readHexUnit place = .ok (unit, ⟨rest, (Cursor.advanceBy 4 place).position⟩) := by
    simp only [readHexUnit, place, digits, value]
    rfl
  have char : readHexEscape place =
      .ok (Char.ofNat unit, ⟨rest, (Cursor.advanceBy 4 place).position⟩) := by
    simp only [readHexEscape, read, bind, Except.bind, single]
    rfl
  refine ⟨(Cursor.advanceBy 4 place).position, ?_⟩
  show (readHexEscape place >>= _) = _
  rw [char]
  rfl

theorem run {bytes : Bytes}
    (plain : ∀ byte ∈ bytes, 0x20 ≤ byte ∧ byte ≠ 0x22 ∧ byte ≠ 0x5C) : Spells bytes bytes := by
  induction bytes with
  | nil => exact .nil
  | cons byte bytes ih =>
    obtain ⟨⟨printable, quote, backslash⟩, others⟩ := List.forall_mem_cons.1 plain
    exact append (.plain printable quote backslash) (ih others)

end Spells

theorem controlValue : ∀ code : Fin 32,
    ([0x30, 0x30, UInt8.ofNat (Bytes.hexDigit (code / 16)).toNat,
        UInt8.ofNat (Bytes.hexDigit (code % 16)).toNat].mapM fun byte : UInt8 =>
      Bytes.hexValue? (Char.ofNat byte.toNat)) = some [0, 0, code.val / 16, code.val % 16] ∧
    [0, 0, code.val / 16, code.val % 16].foldl (fun value digit => 16 * value + digit) 0 =
      code.val ∧
    isTrailingSurrogate code = false ∧ isLeadingSurrogate code = false := by decide

theorem charSpells (c : Char) : Spells (encoded (escapedChar c)) (String.utf8EncodeChar c) := by
  unfold escapedChar
  split
  · rename_i itself
    rcases itself with rfl | rfl
    · exact .short 0x22 (by decide)
    · exact .short 0x5C (by decide)
  rename_i special
  split
  · rename_i same
    exact same ▸ .short 0x62 (by decide)
  split
  · rename_i same
    exact same ▸ .short 0x66 (by decide)
  split
  · rename_i same
    exact same ▸ .short 0x6E (by decide)
  split
  · rename_i same
    exact same ▸ .short 0x72 (by decide)
  split
  · rename_i same
    exact same ▸ .short 0x74 (by decide)
  split
  · rename_i control
    obtain ⟨digits, value, single⟩ := controlValue ⟨c.toNat, control⟩
    have spelled := Spells.unit digits value single
    rw [Char.ofNat_toNat] at spelled
    rw [(controlEncoded ⟨c.toNat, control⟩).1]
    exact spelled
  · rename_i printable
    have plain := encodedPlain printable (fun same => special (.inl same))
      fun same => special (.inr same)
    show Spells (String.utf8EncodeChar c ++ []) _
    rw [List.append_nil]
    exact .run plain

theorem charsSpell (chars : List Char) :
    Spells (encoded (chars.flatMap escapedChar)) (encoded chars) := by
  induction chars with
  | nil => exact .nil
  | cons c chars ih =>
    rw [List.flatMap_cons, encodedAppend, encodedCons]
    exact Spells.append (charSpells c) ih

theorem stringReads (text : String) (rest : Bytes) (position : Position) :
    ∃ after, readString ⟨quoted text ++ rest, position⟩ = .ok (text, ⟨rest, after⟩) := by
  have long : (quoted text ++ rest).length + 1 =
      rest.length + 1 + 1 + (encoded (text.toList.flatMap escapedChar)).length := by
    simp only [quoted, List.length_append, List.length_singleton]
    omega
  have split : quoted text ++ rest = encoded (text.toList.flatMap escapedChar) ++ 0x22 :: rest := by
    simp [quoted]
  have content : encoded text.toList = Bytes.ofText text := by
    rw [← ofTextChars, String.ofList_toList]
  obtain ⟨spare, middle, read⟩ :=
    charsSpell text.toList [] (rest.length + 1 + 1) (0x22 :: rest) position
  refine ⟨Cursor.past middle 0x22, ?_⟩
  have pieces : readPieces [] ((quoted text ++ rest).length + 1) ⟨quoted text ++ rest, position⟩ =
      .ok (Bytes.ofText text, ⟨rest, Cursor.past middle 0x22⟩) := by
    rw [long, split, read, content, Nat.add_right_comm, List.append_nil]
    show Except.ok ((Bytes.ofText text).reverse.reverse, _) = _
    rw [List.reverse_reverse]
    rfl
  unfold readString
  simp only [pieces, bind, Except.bind, Bytes.toTextOfText]

end BrokerVault.Json
