import BrokerVault.Json.Printer
import BrokerVault.Json.Skip
import BrokerVault.Proofs.Sealing.Base64

/-! Numerals: the form of a number in a text, that skipping takes the whole of one, and that numbers
are printed as numerals. No numeral begins with a zero that another digit follows; a double keeps to
this because its digits are zero only where its power is. -/
namespace BrokerVault

namespace Json

def encoded (chars : List Char) : Bytes := chars.flatMap String.utf8EncodeChar

@[simp] theorem encodedAppend (chars more : List Char) :
    encoded (chars ++ more) = encoded chars ++ encoded more := List.flatMap_append

theorem ofTextChars (chars : List Char) : Bytes.ofText (String.ofList chars) = encoded chars := by
  simp only [Bytes.ofText, String.toByteArray_ofList, List.utf8Encode, encoded,
    List.data_toByteArray]

theorem ofTextAppend (text more : String) :
    Bytes.ofText (text ++ more) = Bytes.ofText text ++ Bytes.ofText more := by
  simp [Bytes.ofText]

def Passes (skip : Cursor → Except Error Cursor) (bytes rest : Bytes) : Prop :=
  ∀ position, ∃ after, skip ⟨bytes ++ rest, position⟩ = .ok ⟨rest, after⟩

def Ends (rest : Bytes) : Prop :=
  ∀ byte, rest.head? = some byte → Cursor.isDigit byte = false ∧ byte ≠ 0x2E ∧ byte ≠ 0x65 ∧
    byte ≠ 0x45

structure Digits (bytes : Bytes) : Prop where
  present : bytes ≠ []
  all : ∀ byte ∈ bytes, Cursor.isDigit byte = true

inductive Whole : Bytes → Prop where
  | zero : Whole [0x30]
  | run {first rest} (leading : first ≠ 0x30) (digits : Digits (first :: rest)) :
      Whole (first :: rest)

inductive Fraction : Bytes → Prop where
  | absent : Fraction []
  | present {decimals} (digits : Digits decimals) : Fraction (0x2E :: decimals)

inductive Exponent : Bytes → Prop where
  | absent : Exponent []
  | present {sign power} (signed : sign = 0x2B ∨ sign = 0x2D) (digits : Digits power) :
      Exponent (0x65 :: sign :: power)

inductive Numeral : Bytes → Prop where
  | parts {minus whole fraction exponent} (sign : minus = [] ∨ minus = [0x2D])
      (first : Whole whole) (second : Fraction fraction) (last : Exponent exponent) :
      Numeral (minus ++ (whole ++ (fraction ++ exponent)))

def skipUnsigned (c : Cursor) : Except Error Cursor :=
  if c.next? = some 0x30 then
    if (c.advance.next?.map Cursor.isDigit).getD false then c.advance.faultPeeking .number
    else skipFraction c.advance
  else
    match c.digits with
    | ([], _) => c.advance.faultAt .number
    | (_, after) => skipFraction after

theorem skipNumberSigned (c : Cursor) :
    skipNumber c = skipUnsigned (if c.next? = some 0x2D then c.advance else c) := rfl

variable {bytes whole fraction exponent rest : Bytes}

theorem Digits.taken (digits : Digits bytes)
    (stops : ∀ byte, rest.head? = some byte → Cursor.isDigit byte = false) (position : Position) :
    ∃ value values after,
      Cursor.digits ⟨bytes ++ rest, position⟩ = (value :: values, ⟨rest, after⟩) := by
  have run : ∀ (bytes : Bytes) position, (∀ byte ∈ bytes, Cursor.isDigit byte = true) →
      ∃ values after, Cursor.digitsFrom (bytes ++ rest) position = (values, ⟨rest, after⟩) ∧
        values.length = bytes.length := by
    intro bytes
    induction bytes with
    | nil =>
      intro position _
      refine ⟨[], position, ?_, rfl⟩
      cases rest with
      | nil => rfl
      | cons byte rest => simp [Cursor.digitsFrom, stops byte rfl]
    | cons byte bytes ih =>
      intro position all
      obtain ⟨head, all⟩ := List.forall_mem_cons.1 all
      obtain ⟨values, after, taken, length⟩ := ih (Cursor.past position byte) all
      exact ⟨Cursor.digitValue byte :: values, after, by simp [Cursor.digitsFrom, head, taken],
        by simp [length]⟩
  obtain ⟨values, after, taken, length⟩ := run bytes position digits.all
  cases values with
  | nil => exact absurd (List.length_eq_zero_iff.1 length.symm) digits.present
  | cons value values => exact ⟨value, values, after, taken⟩

theorem Exponent.stops (form : Exponent exponent) (ends : Ends rest) :
    ∀ byte, (exponent ++ rest).head? = some byte → Cursor.isDigit byte = false ∧ byte ≠ 0x2E := by
  intro byte found
  cases form with
  | absent => exact ⟨(ends byte found).1, (ends byte found).2.1⟩
  | present =>
    cases found
    exact ⟨rfl, by decide⟩

theorem Fraction.stops (form : Fraction fraction) (last : Exponent exponent) (ends : Ends rest) :
    ∀ byte, (fraction ++ (exponent ++ rest)).head? = some byte → Cursor.isDigit byte = false := by
  intro byte found
  cases form with
  | absent => exact (last.stops ends byte found).1
  | present =>
    cases found
    rfl

theorem Exponent.passes (form : Exponent exponent) (ends : Ends rest) :
    Passes skipOptionalExponent exponent rest := by
  intro position
  cases form with
  | absent =>
    refine ⟨position, if_neg ?_⟩
    rintro (letter | letter)
    · exact (ends _ letter).2.2.1 rfl
    · exact (ends _ letter).2.2.2 rfl
  | @present sign power signed digits =>
    obtain ⟨value, values, after, taken⟩ := digits.taken (fun byte found => (ends byte found).1)
      (Cursor.past (Cursor.past position 0x65) sign)
    refine ⟨after, (if_pos (.inl rfl)).trans ?_⟩
    rcases signed with rfl | rfl <;> simp [skipExponent, Cursor.advance, Cursor.next?, taken]

theorem Fraction.passes (form : Fraction fraction) (last : Exponent exponent) (ends : Ends rest) :
    Passes skipFraction (fraction ++ exponent) rest := by
  intro position
  cases form with
  | absent =>
    obtain ⟨after, passed⟩ := last.passes ends position
    refine ⟨after, (if_neg fun point => ?_).trans passed⟩
    exact (last.stops ends _ point).2 rfl
  | @present decimals digits =>
    obtain ⟨value, values, middle, taken⟩ := digits.taken
      (fun byte found => (last.stops ends byte found).1) (Cursor.past position 0x2E)
    obtain ⟨after, passed⟩ := last.passes ends middle
    refine ⟨after, (if_pos rfl).trans ?_⟩
    simp only [List.cons_append, Cursor.advance, List.append_assoc, taken, passed]

theorem Whole.passes (form : Whole whole) (second : Fraction fraction) (last : Exponent exponent)
    (ends : Ends rest) : Passes skipUnsigned (whole ++ (fraction ++ exponent)) rest := by
  intro position
  cases form with
  | zero =>
    obtain ⟨after, passed⟩ := second.passes last ends (Cursor.past position 0x30)
    refine ⟨after, (if_pos rfl).trans ((if_neg ?_).trans passed)⟩
    simp only [Cursor.advance, List.cons_append, List.nil_append, List.append_assoc, Cursor.next?]
    cases found : (fraction ++ (exponent ++ rest)).head? with
    | none => simp
    | some byte => simp [second.stops last ends byte found]
  | @run first others leading digits =>
    obtain ⟨value, values, middle, taken⟩ := digits.taken (second.stops last ends) position
    obtain ⟨after, passed⟩ := second.passes last ends middle
    rw [List.append_assoc] at passed ⊢
    refine ⟨after, (if_neg fun zero => leading (Option.some.inj zero)).trans ?_⟩
    rw [List.append_assoc, taken]
    exact passed

theorem Numeral.passes (form : Numeral bytes) (ends : Ends rest) : Passes skipNumber bytes rest := by
  intro position
  cases form with
  | @parts minus whole fraction exponent sign first second last =>
    rcases sign with rfl | rfl
    · obtain ⟨after, passed⟩ := first.passes second last ends position
      refine ⟨after, ?_⟩
      rw [skipNumberSigned, if_neg ?_]
      · exact passed
      · cases first with
        | zero => exact fun minus => nomatch minus
        | run _ digits =>
          intro minus
          cases minus
          exact absurd (digits.all _ List.mem_cons_self) (by decide)
    · obtain ⟨after, passed⟩ := first.passes second last ends (Cursor.past position 0x2D)
      refine ⟨after, ?_⟩
      exact (congrArg skipUnsigned (if_pos rfl)).trans passed

/-! The numerals that are printed. -/

theorem encodedDigit {c : Char} (digit : c.isDigit = true) :
    ∃ byte, String.utf8EncodeChar c = [byte] ∧ Cursor.isDigit byte = true ∧
      (c ≠ '0' → byte ≠ 0x30) := by
  have range := Char.isDigit_iff_toNat.1 digit
  have low : 48 ≤ c.toNat := range.1
  have high : c.toNat ≤ 57 := range.2
  have codes : ∀ code < 58, 48 ≤ code → Cursor.isDigit (UInt8.ofNat code) = true ∧
      (code ≠ 48 → UInt8.ofNat code ≠ 0x30) := by decide
  obtain ⟨shown, leading⟩ := codes c.toNat (by omega) low
  refine ⟨UInt8.ofNat c.toNat, ?_, shown, fun other => leading fun same => other ?_⟩
  · rw [← Base64.asciiEncoded c.toNat (by omega), Char.ofNat_toNat]
  · exact Char.toNat_inj.1 same

theorem encodedCons (c : Char) (chars : List Char) :
    encoded (c :: chars) = String.utf8EncodeChar c ++ encoded chars := rfl

theorem encodedDigits {chars : List Char} (all : ∀ c ∈ chars, c.isDigit = true) :
    ∀ byte ∈ encoded chars, Cursor.isDigit byte = true := by
  intro byte found
  obtain ⟨c, from_, inside⟩ := List.mem_flatMap.1 found
  obtain ⟨single, same, digit, _⟩ := encodedDigit (all c from_)
  rw [same, List.mem_singleton] at inside
  exact inside ▸ digit

theorem Digits.ofChars {chars : List Char} (present : chars ≠ [])
    (all : ∀ c ∈ chars, c.isDigit = true) : Digits (encoded chars) := by
  refine ⟨?_, encodedDigits all⟩
  cases chars with
  | nil => exact absurd rfl present
  | cons c chars =>
    obtain ⟨byte, same, _⟩ := encodedDigit (all c List.mem_cons_self)
    simp [encodedCons, same]

theorem Whole.ofChars {first : Char} {others : List Char}
    (all : ∀ c ∈ first :: others, c.isDigit = true) (leading : first = '0' → others = []) :
    Whole (encoded (first :: others)) := by
  by_cases zero : first = '0'
  · rw [leading zero, zero]
    exact .zero
  · obtain ⟨byte, same, _, other⟩ := encodedDigit (all first List.mem_cons_self)
    have digits := Digits.ofChars (List.cons_ne_nil _ _) all
    rw [encodedCons, same] at digits ⊢
    exact .run (other zero) digits

theorem toDigitsAll (number : Nat) : ∀ c ∈ Nat.toDigits 10 number, c.isDigit = true :=
  fun _ => Nat.isDigit_of_mem_toDigits (by decide) (by decide)

theorem toDigitsLeading {number : Nat} (positive : number ≠ 0) :
    ∃ first others, Nat.toDigits 10 number = first :: others ∧ first ≠ '0' := by
  induction number using Nat.strongRecOn with
  | _ number ih =>
    by_cases single : number < 10
    · exact ⟨_, [], Nat.toDigits_of_lt_base single, by simpa using positive⟩
    · obtain ⟨first, others, same, leading⟩ := ih (number / 10) (by omega) (by omega)
      rw [Nat.toDigits_of_base_le (by decide) (Nat.le_of_not_lt single), same]
      exact ⟨first, _, rfl, leading⟩

theorem wholeToDigits (number : Nat) : Whole (encoded (Nat.toDigits 10 number)) := by
  by_cases zero : number = 0
  · rw [zero, Nat.toDigits_zero]
    exact .zero
  · obtain ⟨first, others, same, leading⟩ := toDigitsLeading zero
    have all := toDigitsAll number
    rw [same] at all ⊢
    exact .ofChars all fun zero => absurd zero leading

theorem integerNumeral (value : Int) : Numeral (Bytes.ofText (toString value)) := by
  have plain (number : Nat) : Whole (Bytes.ofText number.repr) := by
    rw [Nat.repr_eq_ofList_toDigits, ofTextChars]
    exact wholeToDigits number
  rw [Int.toString_eq_repr, Int.repr_eq_if]
  split
  · simpa using Numeral.parts (.inl rfl) (plain value.toNat) .absent .absent
  · have minus : Bytes.ofText "-" = [0x2D] := by decide
    rw [ofTextAppend, minus]
    simpa using Numeral.parts (.inr rfl) (plain (-value).toNat) .absent .absent

end Json

namespace Double

theorem significandPositive {value : Double} (nonzero : value.isZero = false) :
    0 < value.significand := by
  unfold significand
  split
  · rename_i small
    simp only [isZero, small, BEq.rfl, Bool.true_and, beq_eq_false_iff_ne] at nonzero
    exact Nat.pos_of_ne_zero nonzero
  · exact Nat.add_pos_right _ (by decide)

theorem readsBackPositive {value : Double} {digits : Nat} {power : Int}
    (nonzero : value.isZero = false) (reads : value.readsBack digits power = true) :
    digits ≠ 0 := by
  rintro rfl
  have units : 0 < value.lowerUnits := by
    have positive := significandPositive nonzero
    unfold lowerUnits
    split <;> omega
  have low : 0 < value.lowerUnits * Nat.pow 2 (value.exponent - 2).toNat *
      Nat.pow 10 (-power).toNat :=
    Nat.mul_pos (Nat.mul_pos units (Nat.pow_pos (by decide))) (Nat.pow_pos (by decide))
  unfold readsBack at reads
  split at reads <;> simp only [scaled, Nat.zero_mul, Bool.and_eq_true, decide_eq_true_eq] at reads
    <;> omega

theorem onGridPositive {value : Double} {power : Int} {number : Decimal}
    (nonzero : value.isZero = false) (found : value.onGrid? power = some number) :
    number.digits ≠ 0 := by
  simp only [onGrid?] at found
  split at found
  · rename_i below _
    split at found <;> cases found
    · exact readsBackPositive nonzero below
    · exact Nat.succ_ne_zero _
  · rename_i below _
    cases found
    exact readsBackPositive nonzero below
  · cases found
    exact Nat.succ_ne_zero _
  · cases found

theorem reducePositive (steps : Nat) {number : Decimal} (positive : number.digits ≠ 0) :
    (Decimal.reduce steps number).digits ≠ 0 := by
  induction steps generalizing number with
  | zero => exact positive
  | succ steps ih =>
    unfold Decimal.reduce
    split
    · rename_i trailing
      exact ih (by show number.digits / 10 ≠ 0; omega)
    · exact positive

theorem shortestForm {value : Double} (nonzero : value.isZero = false) :
    value.shortest.digits ≠ 0 ∨ value.shortest = ⟨0, 0⟩ := by
  cases found : (List.range 17).findSome? fun (digits : Nat) =>
    value.onGrid? (value.decimalExponent - digits) with
  | none =>
    -- The stand-in for what none of the seventeen grids gives.
    exact .inr (by simp only [shortest, found]; decide)
  | some number =>
    have shown : value.shortest = Decimal.reduce 17 number := by simp only [shortest, found]; rfl
    rw [shown]
    obtain ⟨_, _, hit⟩ := List.exists_of_findSome?_eq_some found
    exact .inl (reducePositive 17 (onGridPositive nonzero hit))

end Double

namespace Json

theorem zerosAll (count : Nat) : ∀ c ∈ List.replicate count '0', c.isDigit = true := by
  intro c found
  rw [List.eq_of_mem_replicate found]
  rfl

theorem paddedParts {first : Char} {others padded : List Char} (places : Nat)
    (all : ∀ c ∈ first :: others, c.isDigit = true) (leading : first ≠ '0') (decimals : 0 < places)
    (is : List.replicate (places + 1 - (first :: others).length) '0' ++ first :: others = padded) :
    Whole (encoded (padded.take (padded.length - places))) ∧
      Digits (encoded (padded.drop (padded.length - places))) := by
  have length : padded.length = max (places + 1) (first :: others).length := by
    rw [← is, List.length_append, List.length_replicate]
    omega
  have digits : ∀ c ∈ padded, c.isDigit = true := by
    rw [← is]
    exact List.forall_mem_append.2 ⟨zerosAll _, all⟩
  refine ⟨?_, .ofChars ?_ fun c found => digits c (List.mem_of_mem_drop found)⟩
  · -- Before the point stands the first zero of the padding alone, or nothing was added.
    by_cases short : (first :: others).length ≤ places
    · have cut : padded.length - places = 1 := by omega
      have start : padded.take 1 = ['0'] := by
        rw [← is, Nat.succ_sub short, List.replicate_succ]
        rfl
      rw [cut, start]
      exact .zero
    · have bare : padded = first :: others := by
        rw [← is, Nat.sub_eq_zero_of_le (by omega)]
        rfl
      obtain ⟨count, cut⟩ : ∃ count, padded.length - places = count + 1 :=
        ⟨padded.length - places - 1, by omega⟩
      rw [cut, bare, List.take_succ_cons]
      exact .ofChars (fun c found => all c (List.mem_of_mem_take (i := count + 1) found))
        fun zero => absurd zero leading
  · rw [Ne, List.drop_eq_nil_iff]
    omega

theorem positionalNumeral {number : Double.Decimal}
    (form : number.digits ≠ 0 ∨ number = ⟨0, 0⟩) :
    ∃ whole fraction, encoded (Double.positionalText (Nat.toDigits 10 number.digits) number.power) =
      whole ++ fraction ∧ Whole whole ∧ Fraction fraction := by
  rcases form with positive | rfl
  · obtain ⟨first, others, same, leading⟩ := toDigitsLeading positive
    have all := toDigitsAll number.digits
    rw [same] at all ⊢
    unfold Double.positionalText
    split
    · refine ⟨_, encoded ['.', '0'], encodedAppend _ _, ?_,
        .present (.ofChars (by decide) (zerosAll 1))⟩
      exact .ofChars (List.forall_mem_append.2 ⟨all, zerosAll _⟩) fun zero => absurd zero leading
    · obtain ⟨whole, decimals⟩ := paddedParts (-number.power).toNat all leading (by omega) rfl
      exact ⟨_, _, encodedAppend _ _, whole, .present decimals⟩
  · exact ⟨[0x30], [0x2E, 0x30], by decide, .zero, .present (.ofChars (by decide) (zerosAll 1))⟩

theorem fractionOf (decimals : List Char) : (∀ c ∈ decimals, c.isDigit = true) →
    Fraction (encoded (match decimals with | [] => [] | rest => '.' :: rest)) := by
  intro all
  cases decimals with
  | nil => exact .absent
  | cons first others => exact .present (.ofChars (List.cons_ne_nil _ _) all)

theorem scientificNumeral (number : Nat) (leading : Int) :
    ∃ whole fraction exponent,
      encoded (Double.scientificText (Nat.toDigits 10 number) leading) =
        whole ++ (fraction ++ exponent) ∧ Whole whole ∧ Fraction fraction ∧ Exponent exponent := by
  have all := toDigitsAll number
  obtain ⟨first, others, same⟩ := List.exists_cons_of_ne_nil
    (Nat.toDigits_ne_nil (n := number) (b := 10))
  rw [same] at all ⊢
  obtain ⟨single, rest⟩ := List.forall_mem_cons.1 all
  have power : Digits (encoded (Nat.toDigits 10 leading.natAbs)) :=
    .ofChars Nat.toDigits_ne_nil (toDigitsAll _)
  have exponent : Exponent (encoded (['e', if 0 ≤ leading then '+' else '-'] ++
      Nat.toDigits 10 leading.natAbs)) := by
    rw [encodedAppend]
    split
    · exact .present (.inl rfl) power
    · exact .present (.inr rfl) power
  refine ⟨encoded [first], _, _, ?_, .ofChars (List.forall_mem_singleton.2 single) fun _ => rfl,
    fractionOf others rest, exponent⟩
  simp only [← encodedAppend]
  rw [Double.scientificText, List.append_assoc, List.append_assoc]
  rfl

theorem doubleNumeral (value : Double) : Numeral (Bytes.ofText value.text) := by
  have sign : encoded (if value.isNegative then ['-'] else []) = [] ∨
      encoded (if value.isNegative then ['-'] else []) = [0x2D] := by
    split
    · exact .inr rfl
    · exact .inl rfl
  simp only [Double.text]
  generalize (if value.isNegative then ['-'] else []) = signs at sign ⊢
  split
  · rw [ofTextChars, encodedAppend]
    have point : Fraction [0x2E, 0x30] := .present (.ofChars (by decide) (zerosAll 1))
    have parts := Numeral.parts sign .zero point .absent
    exact parts
  · rename_i nonzero
    rw [ofTextChars, encodedAppend]
    split
    · obtain ⟨whole, fraction, same, first, second⟩ :=
        positionalNumeral (Double.shortestForm (Bool.eq_false_iff.2 nonzero))
      rw [same, ← List.append_nil fraction]
      exact .parts sign first second .absent
    · obtain ⟨whole, fraction, exponent, same, first, second, last⟩ := scientificNumeral _ _
      rw [same]
      exact .parts sign first second last

theorem numberNumeral (value : JsonNumber) : Numeral (Bytes.ofText value.text) := by
  cases value with
  | integer value => exact integerNumeral value
  | double value => exact doubleNumeral value

end Json

end BrokerVault
