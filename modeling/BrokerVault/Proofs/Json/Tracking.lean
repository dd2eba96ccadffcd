import BrokerVault.Json.Reader
import BrokerVault.Proofs.Json.Numerals

/-! Building a value beside skipping it. Both go over the same bytes: where a value is built, skipping
goes on from the place behind it; where building fails, skipping fails too, unless the fault is one
that the form of a text does not show. -/
namespace BrokerVault.Json

/-- Whether only building finds the fault. -/
def Fault.ofBuilding : Fault → Bool
  | .numberOutOfRange | .nesting | .loneSurrogate | .hexEscapeCut | .encoding => true
  | _ => false

namespace Cursor

def left (c : Cursor) : Nat := c.rest.length

variable {c : Cursor}

theorem advanceLess {byte : UInt8} (next : c.next? = some byte) : c.advance.left < c.left := by
  obtain ⟨rest, position⟩ := c
  cases rest with
  | nil => cases next
  | cons => exact Nat.lt_succ_self _

theorem advanceAtMost (c : Cursor) : c.advance.left ≤ c.left := by
  obtain ⟨rest, position⟩ := c
  cases rest with
  | nil => exact Nat.le_refl _
  | cons => exact Nat.le_succ _

theorem blanksAtMost (c : Cursor) : c.skipBlanks.left ≤ c.left := by
  obtain ⟨rest, position⟩ := c
  show (skipBlanksFrom rest position).rest.length ≤ rest.length
  induction rest generalizing position with
  | nil => exact Nat.le_refl _
  | cons byte rest ih =>
    rw [skipBlanksFrom]
    split
    · exact Nat.le_succ_of_le (ih _)
    · exact Nat.le_refl _

theorem blanksTwice (c : Cursor) : c.skipBlanks.skipBlanks = c.skipBlanks := by
  obtain ⟨rest, position⟩ := c
  show (skipBlanksFrom rest position).skipBlanks = skipBlanksFrom rest position
  induction rest generalizing position with
  | nil => rfl
  | cons byte rest ih =>
    rw [skipBlanksFrom]
    split
    · exact ih _
    · rename_i shown
      exact if_neg shown

theorem digitsLeft (c : Cursor) : c.digits.1.length + c.digits.2.left = c.left := by
  obtain ⟨rest, position⟩ := c
  show (digitsFrom rest position).1.length + (digitsFrom rest position).2.rest.length = rest.length
  induction rest generalizing position with
  | nil => rfl
  | cons byte rest ih =>
    rw [digitsFrom]
    split
    · have := ih (past position byte)
      simp only [List.length_cons]
      omega
    · exact Nat.zero_add _

end Cursor

/-- What building says about skipping, with fuel for the bytes still to come: `onward` is what
skipping goes on with from the place behind the value. -/
inductive Tracks {α : Type} (limit : Nat) (skip : Nat → Except Error Cursor)
    (onward : Nat → Cursor → Except Error Cursor) : Except Error (α × Cursor) → Prop where
  | built {value after} (shorter : after.left ≤ limit)
      (same : ∀ fuel, limit < fuel → ∃ spare, after.left < spare ∧ skip fuel = onward spare after) :
      Tracks limit skip onward (.ok (value, after))
  | finer {fault position} (building : fault.ofBuilding = true) :
      Tracks limit skip onward (.error ⟨fault, position⟩)
  | refused {error} (fails : ∀ fuel, limit < fuel → ∀ last, skip fuel ≠ .ok last) :
      Tracks limit skip onward (.error error)

namespace Tracks

variable {α β : Type} {limit lower : Nat} {skip inner : Nat → Except Error Cursor}
  {onward middle : Nat → Cursor → Except Error Cursor} {read : Except Error (α × Cursor)}

theorem here {value : α} {after : Cursor} (shorter : after.left ≤ limit) :
    Tracks limit (fun fuel => onward fuel after) onward (.ok (value, after)) :=
  .built shorter fun fuel more => ⟨fuel, Nat.lt_of_le_of_lt shorter more, rfl⟩

theorem step (less : lower < limit) (steps : ∀ fuel, skip (fuel + 1) = inner fuel)
    (tracks : Tracks lower inner onward read) : Tracks limit skip onward read := by
  cases tracks with
  | built shorter same =>
    refine .built (by omega) fun fuel more => ?_
    obtain ⟨fuel, rfl⟩ := Nat.exists_eq_add_of_lt more
    obtain ⟨spare, enough, goes⟩ := same (limit + fuel) (by omega)
    exact ⟨spare, enough, (steps _).trans goes⟩
  | finer building => exact .finer building
  | refused fails =>
    refine .refused fun fuel more last => ?_
    obtain ⟨fuel, rfl⟩ := Nat.exists_eq_add_of_lt more
    rw [steps]
    exact fails _ (by omega) last

theorem widen (less : lower ≤ limit) (tracks : Tracks lower skip onward read) :
    Tracks limit skip onward read := by
  cases tracks with
  | built shorter same => exact .built (by omega) fun fuel more => same fuel (by omega)
  | finer building => exact .finer building
  | refused fails => exact .refused fun fuel more => fails fuel (by omega)

theorem bind {next : α × Cursor → Except Error (β × Cursor)}
    (first : Tracks limit skip middle read)
    (rest : ∀ value after, after.left ≤ limit →
      Tracks after.left (fun fuel => middle fuel after) onward (next (value, after))) :
    Tracks limit skip onward (read >>= next) := by
  cases first with
  | @built value after shorter same =>
    have tracks := rest value after shorter
    show Tracks limit skip onward (next (value, after))
    generalize next (value, after) = result at tracks
    cases tracks with
    | built shorterStill sameThen =>
      refine .built (Nat.le_trans shorterStill shorter) fun fuel more => ?_
      obtain ⟨spare, enough, goes⟩ := same fuel more
      obtain ⟨further, enoughThen, goesThen⟩ := sameThen spare enough
      exact ⟨further, enoughThen, goes.trans goesThen⟩
    | finer building => exact .finer building
    | refused fails =>
      refine .refused fun fuel more last => ?_
      obtain ⟨spare, enough, goes⟩ := same fuel more
      rw [goes]
      exact fails spare enough last
  | finer building => exact .finer building
  | refused fails => exact .refused fails

theorem map (tracks : Tracks limit skip onward read) (change : α → β) :
    Tracks limit skip onward (read.map fun (value, c) => (change value, c)) := by
  cases tracks with
  | built shorter same => exact .built shorter same
  | finer building => exact .finer building
  | refused fails => exact .refused fails

theorem fixed {fuel : Nat} (tracks : Tracks limit skip (fun _ after => .ok after) read)
    (enough : limit < fuel) :
    Tracks limit (fun _ => skip fuel) (fun _ after => .ok after) read := by
  cases tracks with
  | built shorter same =>
    obtain ⟨_, _, goes⟩ := same fuel enough
    exact .built shorter fun spare more => ⟨spare, Nat.lt_of_le_of_lt shorter more, goes⟩
  | finer building => exact .finer building
  | refused fails => exact .refused fun _ _ => fails fuel enough

theorem onto {skip : Except Error Cursor}
    (tracks : Tracks limit (fun _ => skip) (fun _ after => .ok after) read)
    (next : Nat → Cursor → Except Error Cursor) :
    Tracks limit (fun fuel => skip >>= next fuel) next read := by
  cases tracks with
  | @built _ after shorter same =>
    refine .built shorter fun fuel more => ⟨fuel, Nat.lt_of_le_of_lt shorter more, ?_⟩
    obtain ⟨_, _, goes⟩ := same fuel more
    rw [goes]
    rfl
  | finer building => exact .finer building
  | refused fails =>
    refine .refused fun fuel more last => ?_
    cases skip with
    | ok after => exact (fails fuel more after rfl).elim
    | error error => nofun

theorem shared {step : Except Error Cursor} {next : Cursor → Except Error (α × Cursor)}
    (shorter : ∀ after, step = .ok after → after.left ≤ limit)
    (rest : ∀ after, after.left ≤ limit →
      Tracks after.left (fun fuel => middle fuel after) onward (next after)) :
    Tracks limit (fun fuel => step >>= middle fuel) onward (step >>= next) := by
  cases step with
  | ok after => exact widen (shorter after rfl) (rest after (shorter after rfl))
  | error error => exact .refused fun _ _ _ => nofun

end Tracks

/-! Strings. -/

theorem hexUnitLeft {c after : Cursor} {unit : Nat} (read : readHexUnit c = .ok (unit, after)) :
    after.left ≤ c.left := by
  obtain ⟨rest, position⟩ := c
  unfold readHexUnit at read
  split at read
  · rename_i same
    cases same
    simp only at read
    split at read
    · cases read
      simp only [Cursor.left, Cursor.advanceBy, Cursor.advance, List.length_cons]
      omega
    · cases read
  · cases read

theorem unitTracks (c : Cursor) (onward : Nat → Cursor → Except Error Cursor) :
    Tracks c.left (fun fuel => (readHexUnit c).map Prod.snd >>= onward fuel) onward
      (readHexUnit c) := by
  cases read : readHexUnit c with
  | error error => exact .refused fun _ _ _ => nofun
  | ok found => exact .here (hexUnitLeft read)

theorem skipPiecesEnd {c : Cursor} (ended : c.next? = none) (fuel : Nat) :
    skipPieces fuel c = c.faultAt .endInString := by
  cases fuel with
  | zero => rfl
  | succ fuel => rw [skipPieces, ended]

theorem skipPiecesEscape {c : Cursor} (escape : c.next? = some 0x5C) (fuel : Nat) :
    skipPieces (fuel + 1) c = skipEscape c.advance >>= skipPieces fuel := by
  rw [skipPieces, escape]
  rfl

theorem skipUnit {c : Cursor} (letter : c.next? = some 0x75) :
    skipEscape c = (readHexUnit c.advance).map Prod.snd := by
  rw [skipEscape, letter]
  rfl

theorem readPairByteIs {byte found : UInt8} {c : Cursor} (next : c.next? = some found) :
    readPairByte byte c =
      if found = byte then .ok c.advance else c.advance.faultAt .hexEscapeCut := by
  rw [readPairByte, next]

theorem readPairByteEnd (byte : UInt8) {c : Cursor} (ended : c.next? = none) :
    readPairByte byte c = c.faultAt .endInString := by
  rw [readPairByte, ended]

theorem pairTracks (unit : Nat) (c : Cursor) :
    Tracks c.left (fun fuel => skipPieces fuel c) skipPieces (do
      let c ← readPairByte 0x5C c
      let c ← readPairByte 0x75 c
      let (second, c) ← readHexUnit c
      if isTrailingSurrogate second then
        .ok (Char.ofNat (0x10000 + (unit - 0xD800) * 0x400 + (second - 0xDC00)), c)
      else c.faultAt .loneSurrogate) := by
  cases first : c.next? with
  | none =>
    rw [readPairByteEnd _ first]
    exact .refused fun fuel _ last => by simp only [skipPiecesEnd first]; nofun
  | some backslash =>
    rw [readPairByteIs first]
    split
    · rename_i escape
      subst escape
      refine .step (Cursor.advanceLess first) (skipPiecesEscape first) ?_
      show Tracks _ _ _ (readPairByte 0x75 c.advance >>= _)
      cases second : c.advance.next? with
      | none =>
        have cut : skipEscape c.advance = c.advance.faultAt .endInString := by
          rw [skipEscape, second]
        rw [readPairByteEnd _ second, cut]
        exact .refused fun _ _ _ => nofun
      | some letter =>
        rw [readPairByteIs second]
        split
        · rename_i unicode
          subst unicode
          rw [skipUnit second]
          refine .widen (Cursor.advanceAtMost _) ?_
          refine (unitTracks c.advance.advance skipPieces).bind fun low after _ => ?_
          simp only
          split
          · exact .here (Nat.le_refl _)
          · exact .finer rfl
        · exact .finer rfl
    · exact .finer rfl

theorem hexEscapeTracks (c : Cursor) :
    Tracks c.left (fun fuel => (readHexUnit c).map Prod.snd >>= skipPieces fuel) skipPieces
      (readHexEscape c) := by
  refine (unitTracks c skipPieces).bind fun unit after _ => ?_
  simp only
  split
  · exact .finer rfl
  · split
    · exact pairTracks unit after
    · exact .here (Nat.le_refl _)

theorem escapeTracks (c : Cursor) :
    Tracks c.left (fun fuel => skipEscape c >>= skipPieces fuel) skipPieces (readEscape c) := by
  rw [skipEscape, readEscape]
  cases next : c.next? with
  | none => exact .refused fun _ _ _ => nofun
  | some letter =>
    simp only
    cases short : shortEscape? letter with
    | some byte => exact .here (Cursor.advanceAtMost c)
    | none =>
      simp only [Option.isSome_none, Bool.false_eq_true, ↓reduceIte]
      split
      · refine .widen (Cursor.advanceAtMost c) ?_
        exact (hexEscapeTracks c.advance).bind fun _ _ _ => .here (Nat.le_refl _)
      · exact .refused fun _ _ _ => nofun

theorem piecesTrack {fuel : Nat} {c : Cursor} (done : Bytes) (enough : c.left < fuel) :
    Tracks c.left (fun spare => skipPieces spare c) (fun _ after => .ok after)
      (readPieces done fuel c) := by
  induction fuel generalizing done c with
  | zero => omega
  | succ fuel ih =>
    rw [readPieces, readPiece]
    cases next : c.next? with
    | none => exact .refused fun spare _ last => by simp only [skipPiecesEnd next]; nofun
    | some byte =>
      have less := Cursor.advanceLess next
      have steps (spare : Nat) : skipPieces (spare + 1) c =
          if byte = 0x22 then .ok c.advance
          else if byte = 0x5C then skipEscape c.advance >>= skipPieces spare
          else if byte < 0x20 then c.faultAt .controlCharacter
          else skipPieces spare c.advance := by
        rw [skipPieces, next]
      refine .step less steps ?_
      simp only
      split
      · exact .here (Nat.le_refl _)
      · split
        · rw [bind_assoc]
          exact (escapeTracks c.advance).bind fun bytes after shorter => ih _ (by omega)
        · split
          · exact .refused fun _ _ _ => nofun
          · exact ih _ (by omega)

theorem stringTracks (c : Cursor) :
    Tracks c.left (fun _ => skipString c) (fun _ after => .ok after) (readString c) := by
  have pieces := (piecesTrack [] (Nat.lt_succ_self c.left)).fixed (Nat.lt_succ_self c.left)
  refine pieces.bind fun bytes after _ => ?_
  simp only
  split
  · exact .here (Nat.le_refl _)
  · exact .finer rfl

/-! Numbers. -/

theorem numberOfTracks (c : Cursor) (positive : Bool) (significand : Nat) (power : Int) :
    Tracks c.left (fun _ => .ok c) (fun _ after => .ok after)
      (numberOf c positive significand power) := by
  rw [numberOf]
  split
  · exact .here (Nat.le_refl _)
  · exact .finer rfl

theorem digitsLess {c after : Cursor} {digits : List Nat} (taken : c.digits = (digits, after)) :
    after.left ≤ c.left := by
  have whole := Cursor.digitsLeft c
  rw [taken] at whole
  exact whole ▸ Nat.le_add_left _ _

theorem digitsTaken {c : Cursor} {byte : UInt8} (next : c.next? = some byte)
    (digit : Cursor.isDigit byte = true) :
    ∃ value values after, c.digits = (value :: values, after) ∧ after.left ≤ c.advance.left := by
  obtain ⟨rest, position⟩ := c
  cases rest with
  | nil => cases next
  | cons first rest =>
    cases next
    let c : Cursor := ⟨rest, Cursor.past position byte⟩
    refine ⟨Cursor.digitValue byte, c.digits.1, c.digits.2, ?_, digitsLess rfl⟩
    exact if_pos digit

theorem digitsNone {c : Cursor}
    (other : ∀ byte, c.next? = some byte → Cursor.isDigit byte = false) : c.digits = ([], c) := by
  obtain ⟨rest, position⟩ := c
  cases rest with
  | nil => rfl
  | cons byte rest =>
    show Cursor.digitsFrom (byte :: rest) position = _
    rw [Cursor.digitsFrom, other byte rfl]
    rfl

def exponentSign (c : Cursor) : Bool × Cursor :=
  if c.next? = some 0x2B then (true, c.advance)
  else if c.next? = some 0x2D then (false, c.advance)
  else (true, c)

def readPower (c : Cursor) (positive upward : Bool) (significand : Nat) (power : Int) :
    Except Error (JsonNumber × Cursor) :=
  match c.next? with
  | none => c.faultAt .endInValue
  | some byte =>
    if Cursor.isDigit byte then
      match exponentOverflow? 0 0 c.digits.1 with
      | some index =>
        if significand ≠ 0 ∧ upward then (Cursor.advanceBy (index + 1) c).faultAt .numberOutOfRange
        else numberOf c.digits.2 positive 0 0
      | none =>
        let exponent : Nat := c.digits.1.foldl (fun value digit => 10 * value + digit) 0
        numberOf c.digits.2 positive significand
          (if upward then power + exponent else power - exponent)
    else c.advance.faultAt .number

def skipPower (c : Cursor) : Except Error Cursor :=
  match c.digits with
  | ([], _) => c.advance.faultAt .number
  | (_, after) => .ok after

theorem readExponentSigned (c : Cursor) (positive : Bool) (significand : Nat) (power : Int) :
    readExponent c positive significand power =
      readPower (exponentSign c.advance).2 positive (exponentSign c.advance).1 significand power :=
  rfl

theorem skipExponentSigned (c : Cursor) :
    skipExponent c = skipPower (exponentSign c.advance).2 := by
  rw [skipExponent, exponentSign]
  by_cases plus : c.advance.next? = some 0x2B
  · simp only [plus, true_or, ↓reduceIte]
    rfl
  · by_cases minus : c.advance.next? = some 0x2D
    · simp only [minus, or_true, ↓reduceIte]
      rfl
    · simp only [plus, minus, or_self, ↓reduceIte]
      rfl

theorem powerTracks (c : Cursor) (positive upward : Bool) (significand : Nat) (power : Int) :
    Tracks c.left (fun _ => skipPower c) (fun _ after => .ok after)
      (readPower c positive upward significand power) := by
  rw [skipPower, readPower]
  cases next : c.next? with
  | none =>
    rw [digitsNone fun byte found => by rw [next] at found; cases found]
    exact .refused fun _ _ _ => nofun
  | some byte =>
    cases digit : Cursor.isDigit byte with
    | false =>
      have none : c.digits = ([], c) := digitsNone fun other found => by
        rw [next] at found
        cases found
        exact digit
      simp only [none, digit]
      exact .refused fun _ _ _ => nofun
    | true =>
      obtain ⟨value, values, after, taken, _⟩ := digitsTaken next digit
      simp only [taken, digit, ↓reduceIte]
      refine .widen (digitsLess taken) ?_
      split
      · split
        · exact .finer rfl
        · exact numberOfTracks _ _ _ _
      · exact numberOfTracks _ _ _ _

theorem exponentTracks (c : Cursor) (positive : Bool) (significand : Nat) (power : Int) :
    Tracks c.left (fun _ => skipExponent c) (fun _ after => .ok after)
      (readExponent c positive significand power) := by
  have less : (exponentSign c.advance).2.left ≤ c.left := by
    have first := c.advanceAtMost
    have second := Nat.le_trans c.advance.advanceAtMost first
    rw [exponentSign]
    split
    · exact second
    · split
      · exact second
      · exact first
  rw [skipExponentSigned, readExponentSigned]
  exact .widen less (powerTracks _ _ _ _ _)

theorem exponentLetter {byte : UInt8} :
    isExponentLetter byte = true ↔ byte = 0x65 ∨ byte = 0x45 := by
  simp [isExponentLetter]

theorem optionalExponentTracks {c : Cursor} {plain : Except Error (JsonNumber × Cursor)}
    (ends : Tracks c.left (fun _ => .ok c) (fun _ after => .ok after) plain) (positive : Bool)
    (significand : Nat) (power : Int) :
    Tracks c.left (fun _ => skipOptionalExponent c) (fun _ after => .ok after)
      (match c.next? with
        | some byte =>
          if isExponentLetter byte then readExponent c positive significand power else plain
        | none => plain) := by
  rw [skipOptionalExponent]
  cases next : c.next? with
  | none => exact ends
  | some byte =>
    simp only [Option.some.injEq, ← exponentLetter]
    split
    · exact exponentTracks c positive significand power
    · exact ends

theorem decimalsTrack {c : Cursor} (point : c.next? = some 0x2E) (positive : Bool)
    (significand dropped : Nat) :
    Tracks c.left (fun _ => skipFraction c) (fun _ after => .ok after)
      (readDecimals c positive significand dropped) := by
  rw [skipFraction, if_pos point, readDecimals]
  rcases taken : c.advance.digits with ⟨decimals, after⟩
  have less := Nat.le_trans (digitsLess taken) c.advanceAtMost
  cases decimals with
  | nil =>
    show Tracks _ (fun _ => after.faultPeeking .number) _
      (if after.next?.isSome then after.faultPeeking .number else after.faultAt .endInValue)
    split <;> exact .refused fun _ _ _ => nofun
  | cons decimal decimals =>
    exact .widen less (optionalExponentTracks (numberOfTracks _ _ _ _) _ _ _)

theorem fractionTracks (c : Cursor) (positive : Bool) (digits : List Nat) :
    Tracks c.left (fun _ => skipFraction c) (fun _ after => .ok after)
      (readAfterDigits c positive digits) := by
  rw [readAfterDigits]
  obtain ⟨significand, dropped⟩ := accumulate 0 digits
  simp only
  generalize plain : (if dropped ≠ 0 then numberOf c positive significand dropped
    else if positive = true then Except.ok (JsonNumber.integer significand, c)
    else if significand = 0 ∨ Nat.pow 2 63 < significand then numberOf c false significand 0
    else .ok (JsonNumber.integer (-significand), c)) = ending
  have ends : Tracks c.left (fun _ => .ok c) (fun _ after => .ok after) ending := by
    rw [← plain]
    split
    · exact numberOfTracks _ _ _ _
    · split
      · exact .here (Nat.le_refl _)
      · split
        · exact numberOfTracks _ _ _ _
        · exact .here (Nat.le_refl _)
  have further := optionalExponentTracks ends positive significand dropped
  by_cases point : c.next? = some 0x2E
  · rw [point]
    exact decimalsTrack point _ _ _
  · rw [skipFraction, if_neg point]
    cases next : c.next? with
    | none =>
      rw [next] at further
      exact further
    | some byte =>
      rw [next] at further point
      have other : byte ≠ 0x2E := fun same => point (congrArg some same)
      simp only [if_neg other]
      exact further

def readUnsigned (c : Cursor) (positive : Bool) : Except Error (JsonNumber × Cursor) :=
  match c.next? with
  | none => c.faultAt .endInValue
  | some byte =>
    if byte = 0x30 then
      if (c.advance.next?.map Cursor.isDigit).getD false then c.advance.faultPeeking .number
      else readAfterDigits c.advance positive [0]
    else if Cursor.isDigit byte then readAfterDigits c.digits.2 positive c.digits.1
    else c.advance.faultAt .number

theorem readNumberSigned (c : Cursor) :
    readNumber c =
      if c.next? = some 0x2D then readUnsigned c.advance false else readUnsigned c true := by
  rw [readNumber]
  by_cases minus : c.next? = some 0x2D
  · simp only [if_pos minus]
    rfl
  · simp only [if_neg minus]
    rfl

theorem unsignedTracks (c : Cursor) (positive : Bool) :
    Tracks c.advance.left (fun _ => skipUnsigned c) (fun _ after => .ok after)
      (readUnsigned c positive) := by
  rw [skipUnsigned, readUnsigned]
  cases next : c.next? with
  | none =>
    rw [digitsNone fun byte found => by rw [next] at found; cases found]
    exact .refused fun _ _ _ => nofun
  | some byte =>
    by_cases zero : byte = 0x30
    · subst zero
      simp only [↓reduceIte]
      split
      · exact .refused fun _ _ _ => nofun
      · exact fractionTracks _ _ _
    · have other : some byte ≠ some 0x30 := fun same => zero (Option.some.inj same)
      rw [if_neg other]
      simp only [if_neg zero]
      cases digit : Cursor.isDigit byte with
      | false =>
        have none : c.digits = ([], c) := digitsNone fun other found => by
          rw [next] at found
          cases found
          exact digit
        rw [none]
        exact .refused fun _ _ _ => nofun
      | true =>
        obtain ⟨value, values, after, taken, less⟩ := digitsTaken next digit
        simp only [taken, ↓reduceIte]
        exact .widen less (fractionTracks after positive (value :: values))

theorem numberTracks (c : Cursor) :
    Tracks c.advance.left (fun _ => skipNumber c) (fun _ after => .ok after) (readNumber c) := by
  rw [skipNumberSigned, readNumberSigned]
  split
  · exact .widen c.advance.advanceAtMost (unsignedTracks _ _)
  · exact unsignedTracks _ _

end BrokerVault.Json
