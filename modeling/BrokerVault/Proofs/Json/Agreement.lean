import BrokerVault.Proofs.Json.Tracking
import BrokerVault.Proofs.Json.Values

/-! Checking a document beside building it. Skipping keeps a list of open frames where building calls
itself, so a value is tracked in any frames, and the items of an array or object in those behind
them. -/
namespace BrokerVault.Json

def onward (frames : List Frame) (spare : Nat) (c : Cursor) : Except Error Cursor :=
  closeFrames frames c >>= resume spare

variable {c after : Cursor} {byte : UInt8} {depth : Nat}

theorem closedTracks {α : Type} {limit : Nat} (frames : List Frame) (value : α)
    (less : after.left ≤ limit) :
    Tracks limit (fun spare => closeFrames frames after >>= resume spare) (onward frames)
      (.ok (value, after)) := by
  change Tracks limit (fun spare => onward frames spare after) (onward frames) _
  exact .here less

theorem skipStepBlanks (frames : List Frame) (c : Cursor) :
    skipStep frames c.skipBlanks = skipStep frames c := by
  rw [skipStep, Cursor.blanksTwice, skipStep]

theorem skipStepsOver (next : c.skipBlanks.next? = none) (frames : List Frame) (fuel : Nat)
    (last : Cursor) : skipSteps fuel frames c ≠ .ok last := by
  cases fuel with
  | zero => nofun
  | succ fuel =>
    rw [skipStepsSucc, skipStep, next]
    nofun

theorem skipStepsBracket (next : c.skipBlanks.next? = some 0x5D) (frames : List Frame) (fuel : Nat)
    (last : Cursor) : skipSteps fuel frames c ≠ .ok last := by
  cases fuel with
  | zero => nofun
  | succ fuel =>
    rw [skipStepsSucc, skipStep, next]
    nofun

def ValueTracks (depth : Nat) : Prop :=
  ∀ frames c byte, c.skipBlanks.next? = some byte →
    Tracks c.skipBlanks.advance.left (fun fuel => skipSteps (fuel + 1) frames c) (onward frames)
      (readValue depth c)

theorem readValueOver (depth : Nat) (next : c.skipBlanks.next? = none) :
    readValue depth c = c.skipBlanks.faultPeeking .endInValue := by
  rw [readValue.eq_def]
  simp only [next]

theorem ValueTracks.anywhere (tracks : ValueTracks depth) (frames : List Frame) (c : Cursor) :
    Tracks c.left (fun fuel => skipSteps fuel frames c) (onward frames) (readValue depth c) := by
  cases next : c.skipBlanks.next? with
  | none =>
    rw [readValueOver depth next]
    exact .refused fun fuel _ => skipStepsOver next frames fuel
  | some byte =>
    have less := Nat.lt_of_lt_of_le (Cursor.advanceLess next) c.blanksAtMost
    exact .step less (fun _ => rfl) (tracks frames c byte next)

/-! Scalars. -/

theorem lettersLess {letters : List UInt8} (read : readLetters letters c = .ok after) :
    after.left ≤ c.left := by
  induction letters generalizing c with
  | nil =>
    cases read
    exact Nat.le_refl _
  | cons letter letters ih =>
    rw [readLetters] at read
    cases next : c.next? with
    | none => simp [next, Cursor.faultAt] at read
    | some found =>
      simp only [next] at read
      split at read
      · exact Nat.le_trans (ih read) c.advanceAtMost
      · cases read

theorem literalTracks (letters : List UInt8) (c : Cursor) (value : Json) :
    Tracks c.left (fun _ => readLetters letters c) (fun _ after => .ok after)
      ((readLetters letters c).map fun c => (value, c)) := by
  cases read : readLetters letters c with
  | ok after =>
    have less := lettersLess read
    exact .built less fun fuel more => ⟨fuel, Nat.lt_of_le_of_lt less more, rfl⟩
  | error error => exact .refused fun _ _ _ => nofun

/-! Arrays. -/

theorem openFrameClosing {frame : Frame} (frames : List Frame)
    (next : c.skipBlanks.next? = some frame.closing) :
    openFrame frame frames c = closeFrames frames c.skipBlanks.advance := by
  simp only [openFrame, next, ↓reduceIte]

theorem closeFramesHere {frame : Frame} (frames : List Frame)
    (next : c.skipBlanks.next? = some frame.closing) :
    closeFrames (frame :: frames) c = closeFrames frames c.skipBlanks.advance := by
  have noComma : frame.closing ≠ 0x2C := by cases frame <;> decide
  simp only [closeFrames, next, if_neg noComma, ↓reduceIte]

def amid (first : Bool) (frame : Frame) (frames : List Frame) (c : Cursor) :
    Except Error (List Frame × Cursor) :=
  if first then openFrame frame frames c else closeFrames (frame :: frames) c

theorem amidClosing {frame : Frame} (first : Bool) (frames : List Frame)
    (next : c.skipBlanks.next? = some frame.closing) :
    amid first frame frames c = closeFrames frames c.skipBlanks.advance := by
  cases first
  · exact closeFramesHere frames next
  · exact openFrameClosing frames next

theorem amidOver {frame : Frame} (first : Bool) (frames : List Frame)
    (next : c.skipBlanks.next? = none) :
    amid first frame frames c = c.skipBlanks.faultPeeking frame.cut := by
  cases first <;> simp [amid, openFrame, closeFrames, next]

theorem amidItem (first : Bool) (frames : List Frame) (next : c.skipBlanks.next? = some byte)
    (inside : byte ≠ 0x5D) :
    amid first .list frames c =
      if first then .ok (.list :: frames, c.skipBlanks)
      else if byte = 0x2C then .ok (.list :: frames, c.skipBlanks.advance)
      else c.skipBlanks.faultPeeking .noCommaInList := by
  cases first <;>
    simp [amid, openFrame, closeFrames, next, Frame.closing, inside, skipName, Frame.noComma, bind,
      Except.bind]

inductive ItemAhead (frames : List Frame) (first : Bool) (c : Cursor) :
    Except Error (Option Cursor) → Prop where
  | refused {error} (fails : ∀ fuel last, amid first .list frames c >>= resume fuel ≠ .ok last) :
      ItemAhead frames first c (.error error)
  | closing (next : c.skipBlanks.next? = some 0x5D) : ItemAhead frames first c (.ok none)
  | item {ahead : Cursor} {byte} (blanks : ahead.skipBlanks = ahead) (next : ahead.next? = some byte)
      (less : ahead.left ≤ c.left)
      (steps : ∀ fuel, amid first .list frames c >>= resume (fuel + 1) =
        skipSteps (fuel + 1) (.list :: frames) ahead) :
      ItemAhead frames first c (.ok (some ahead))

theorem itemAhead (frames : List Frame) (first : Bool) (c : Cursor) :
    ItemAhead frames first c (nextItem? first c) := by
  rw [nextItem?]
  cases next : c.skipBlanks.next? with
  | none =>
    refine .refused fun _ _ => ?_
    rw [amidOver first frames next]
    nofun
  | some byte =>
    simp only
    split
    · rename_i closing
      exact .closing (closing ▸ next)
    · rename_i inside
      have here := amidItem first frames next inside
      cases first with
      | true =>
        refine .item (Cursor.blanksTwice c) next c.blanksAtMost fun fuel => ?_
        rw [here]
        rfl
      | false =>
        simp only [Bool.false_eq_true, ↓reduceIte] at here ⊢
        split
        · rename_i comma
          rw [if_pos comma] at here
          have less := Nat.le_trans (Cursor.blanksAtMost _)
            (Nat.le_trans c.skipBlanks.advanceAtMost c.blanksAtMost)
          cases following : c.skipBlanks.advance.skipBlanks.next? with
          | none =>
            refine .refused fun fuel last => ?_
            rw [here]
            exact skipStepsOver following _ fuel last
          | some other =>
            simp only
            split
            · rename_i bracket
              refine .refused fun fuel last => ?_
              rw [here]
              exact skipStepsBracket (bracket ▸ following) _ fuel last
            · refine .item (Cursor.blanksTwice _) following less fun fuel => ?_
              rw [here, skipStepsSucc, skipStepBlanks, ← skipStepsSucc]
              rfl
        · rename_i noComma
          refine .refused fun _ _ => ?_
          rw [here, if_neg noComma]
          nofun

theorem closeArrayClosing (next : c.skipBlanks.next? = some 0x5D) :
    closeArray c = .ok c.skipBlanks.advance := by
  simp only [closeArray, next, ↓reduceIte]

theorem itemsTrack (tracks : ValueTracks depth) (frames : List Frame) {fuel : Nat} {c : Cursor}
    (done : List Json) (enough : c.left < fuel) :
    Tracks c.left (fun spare => amid done.isEmpty .list frames c >>= resume spare) (onward frames)
      (readItems (readValue depth) fuel done c) := by
  -- On the fuel: every item takes a byte.
  induction fuel generalizing done c with
  | zero => omega
  | succ fuel ih =>
    rw [readItems]
    have place := itemAhead frames done.isEmpty c
    generalize nextItem? done.isEmpty c = found at place
    cases place with
    | refused fails => exact .refused fun spare _ => fails spare
    | closing next =>
      have less := Nat.lt_of_lt_of_le (Cursor.advanceLess next) c.blanksAtMost
      rw [closeArrayClosing next, amidClosing _ frames next]
      exact closedTracks frames done.reverse (Nat.le_of_lt less)
    | @item ahead byte blanks next less steps =>
      have strictly := Nat.lt_of_lt_of_le (Cursor.advanceLess next) less
      have value := tracks (.list :: frames) ahead byte (blanks.symm ▸ next)
      rw [blanks] at value
      exact .step strictly steps (value.bind fun item after shorter => ih (item :: done) (by omega))

/-! Objects. -/

def named (frames : List Frame) (fuel : Nat) (c : Cursor) : Except Error Cursor :=
  (skipName .object c >>= fun after => .ok (.object :: frames, after)) >>= resume fuel

theorem namedString (frames : List Frame) (fuel : Nat) (next : c.skipBlanks.next? = some 0x22) :
    named frames fuel c = skipString c.skipBlanks.advance >>= fun after =>
      readColon after >>= skipSteps fuel (.object :: frames) := by
  have name : skipName .object c = skipString c.skipBlanks.advance >>= readColon := by
    simp only [skipName, next, ↓reduceIte]
    rfl
  rw [named, name, bind_assoc, bind_assoc]
  rfl

theorem namedOther (frames : List Frame) (fuel : Nat) (last : Cursor)
    (other : c.skipBlanks.next? ≠ some 0x22) : named frames fuel c ≠ .ok last := by
  have refused : ∃ error, skipName .object c = .error error := by
    cases next : c.skipBlanks.next? with
    | none => exact ⟨_, by simp only [skipName, next]; rfl⟩
    | some byte =>
      have noQuote : byte ≠ 0x22 := fun same => other (same ▸ next)
      exact ⟨_, by simp only [skipName, next, if_neg noQuote]; rfl⟩
  obtain ⟨error, refused⟩ := refused
  rw [named, refused]
  nofun

theorem amidName (first : Bool) (frames : List Frame) (fuel : Nat)
    (next : c.skipBlanks.next? = some byte) (inside : byte ≠ 0x7D) :
    amid first .object frames c >>= resume fuel =
      if first then named frames fuel c.skipBlanks
      else if byte = 0x2C then named frames fuel c.skipBlanks.advance
      else c.skipBlanks.faultPeeking .noCommaInObject := by
  have shut : Frame.object.closing = 0x7D := rfl
  cases first with
  | true =>
    simp only [amid, openFrame, next, shut, if_neg inside, ↓reduceIte]
    rfl
  | false =>
    simp only [amid, closeFrames, next, shut, if_neg inside, Bool.false_eq_true, ↓reduceIte]
    split <;> rfl

theorem colonLess (read : readColon c = .ok after) : after.left ≤ c.left := by
  rw [readColon] at read
  cases next : c.skipBlanks.next? with
  | none => simp [next, Cursor.faultPeeking, Cursor.faultAt] at read
  | some byte =>
    simp only [next] at read
    split at read
    · cases read
      exact Nat.le_trans c.skipBlanks.advanceAtMost c.blanksAtMost
    · cases read

def readMember (depth : Nat) (name : String) (members : List (String × Json)) (c : Cursor) :
    Except Error (List (String × Json) × Cursor) := do
  let c ← readColon c
  let (value, c) ← readValue depth c
  .ok (NameMap.insert name value members, c)

theorem memberTracks (tracks : ValueTracks depth) (frames : List Frame) (name : String)
    (members : List (String × Json)) (c : Cursor) :
    Tracks c.left (fun fuel => readColon c >>= skipSteps fuel (.object :: frames))
      (onward (.object :: frames)) (readMember depth name members c) :=
  .shared (fun _ read => colonLess read) fun after _ =>
    (tracks.anywhere (.object :: frames) after).bind fun _ _ _ => .here (Nat.le_refl _)

inductive NameAhead (frames : List Frame) (first : Bool) (c : Cursor) :
    Except Error (Option (String × Cursor)) → Prop where
  | refused {error}
      (fails : ∀ fuel last, amid first .object frames c >>= resume fuel ≠ .ok last) :
      NameAhead frames first c (.error error)
  | closing (next : c.skipBlanks.next? = some 0x7D) : NameAhead frames first c (.ok none)
  | name {ahead : Cursor} (next : ahead.next? = some 0x22) (less : ahead.left ≤ c.left)
      (steps : ∀ fuel, amid first .object frames c >>= resume fuel =
        skipString ahead.advance >>= fun after =>
          readColon after >>= skipSteps fuel (.object :: frames)) :
      NameAhead frames first c ((readString ahead.advance).map some)

theorem nameAhead (frames : List Frame) (first : Bool) (c : Cursor) :
    NameAhead frames first c (nextName? first c) := by
  rw [nextName?]
  cases next : c.skipBlanks.next? with
  | none =>
    refine .refused fun _ _ => ?_
    rw [amidOver first frames next]
    nofun
  | some byte =>
    simp only
    split
    · rename_i closing
      exact .closing (closing ▸ next)
    · rename_i inside
      have here (fuel : Nat) := amidName first frames fuel next inside
      have again := Cursor.blanksTwice c
      cases first with
      | true =>
        simp only [↓reduceIte] at here ⊢
        split
        · rename_i quote
          subst quote
          refine .name next c.blanksAtMost fun fuel => ?_
          rw [here, namedString frames fuel (again.symm ▸ next), again]
        · rename_i noQuote
          refine .refused fun fuel last => ?_
          rw [here]
          exact namedOther frames fuel last (by rw [again, next]; simpa using noQuote)
      | false =>
        simp only [Bool.false_eq_true, ↓reduceIte] at here ⊢
        split
        · rename_i comma
          simp only [if_pos comma] at here
          have less := Nat.le_trans (Cursor.blanksAtMost _)
            (Nat.le_trans c.skipBlanks.advanceAtMost c.blanksAtMost)
          cases following : c.skipBlanks.advance.skipBlanks.next? with
          | none =>
            refine .refused fun fuel last => ?_
            rw [here]
            exact namedOther frames fuel last (by rw [following]; nofun)
          | some other =>
            simp only
            split
            · rename_i quote
              subst quote
              refine .name following less fun fuel => ?_
              rw [here, namedString frames fuel following]
            · rename_i noQuote
              have fails (fuel : Nat) (last : Cursor) :
                  amid false .object frames c >>= resume fuel ≠ .ok last := by
                rw [here]
                exact namedOther frames fuel last (by rw [following]; simpa using noQuote)
              split <;> exact .refused fails
        · rename_i noComma
          refine .refused fun _ _ => ?_
          rw [here, if_neg noComma]
          nofun

def readRest (depth fuel : Nat) (first : Bool) (members : List (String × Json)) (c : Cursor) :
    Except Error (Json × Cursor) :=
  (readMembers (readMember depth) fuel first members c).map fun (members, c) =>
    (.object members, closeObject c)

theorem restNamed {first : Bool} {ahead : Cursor}
    (name : nextName? first c = (readString ahead.advance).map some) (fuel : Nat)
    (members : List (String × Json)) :
    readRest depth (fuel + 1) first members c =
      readString ahead.advance >>= fun found =>
        readMember depth found.1 members found.2 >>= fun found =>
          readRest depth fuel false found.1 found.2 := by
  rw [readRest, readMembers, name]
  cases readString ahead.advance with
  | error error => rfl
  | ok found =>
    show Except.map _ (readMember depth found.1 members found.2 >>= _) =
      readMember depth found.1 members found.2 >>= _
    cases readMember depth found.1 members found.2 <;> rfl

theorem restTracks (tracks : ValueTracks depth) (frames : List Frame) {fuel : Nat} {c : Cursor}
    (first : Bool) (members : List (String × Json)) (enough : c.left < fuel) :
    Tracks c.left (fun spare => amid first .object frames c >>= resume spare) (onward frames)
      (readRest depth fuel first members c) := by
  -- On the fuel: every member takes a byte.
  induction fuel generalizing first members c with
  | zero => omega
  | succ fuel ih =>
    have place := nameAhead frames first c
    generalize looked : nextName? first c = found at place
    cases place with
    | refused fails =>
      rw [readRest, readMembers, looked]
      exact .refused fun spare _ => fails spare
    | closing next =>
      have closed : closeObject c = c.skipBlanks.advance := by
        simp only [closeObject, next, ↓reduceIte]
      have less := Nat.lt_of_lt_of_le (Cursor.advanceLess next) c.blanksAtMost
      rw [amidClosing _ frames next, readRest, readMembers, looked]
      show Tracks c.left _ (onward frames) (.ok (Json.object members, closeObject c))
      rw [closed]
      exact closedTracks frames _ (Nat.le_of_lt less)
    | @name ahead next less steps =>
      have strictly := Nat.lt_of_lt_of_le (Cursor.advanceLess next) less
      have name := (stringTracks ahead.advance).onto fun spare after =>
        readColon after >>= skipSteps spare (Frame.object :: frames)
      rw [restNamed looked]
      simp only [steps]
      refine .widen (Nat.le_of_lt strictly) (name.bind fun name after shorter => ?_)
      refine (memberTracks tracks frames name members after).bind fun members later further => ?_
      exact ih false members (by omega)

/-! Values and documents. -/

theorem valueTracksInside (inside : ∀ less, depth = less + 1 → ValueTracks less) :
    ValueTracks depth := by
  intro frames c byte next
  have steps (fuel : Nat) := skipStepsSucc fuel frames c
  have literal (letters : List UInt8) (value : Json) :=
    (literalTracks letters c.skipBlanks.advance value).onto (onward frames)
  have all := Nat.lt_succ_self c.skipBlanks.advance.left
  simp only [steps]
  rw [readValue.eq_def, skipStep]
  simp only [next]
  -- Both sides look at the same byte, so its cases are those of both.
  generalize Char.ofNat byte.toNat = letter
  split
  · simp only [bind_assoc]
    exact literal _ .null
  · simp only [bind_assoc]
    exact literal _ (.bool true)
  · simp only [bind_assoc]
    exact literal _ (.bool false)
  · simp only [bind_assoc]
    exact ((stringTracks c.skipBlanks.advance).map Json.string).onto (onward frames)
  · cases depth with
    | zero => exact .finer rfl
    | succ less => exact (itemsTrack (inside less rfl) frames [] all).map Json.array
  · cases depth with
    | zero => exact .finer rfl
    | succ less => exact restTracks (inside less rfl) frames true [] all
  · by_cases number : letter = '-' ∨ Cursor.isDigit byte = true
    · simp only [if_pos number, bind_assoc]
      exact ((numberTracks c.skipBlanks).map Json.number).onto (onward frames)
    · simp only [if_neg number]
      exact .refused fun _ _ _ done => by cases done

theorem valueTracks (depth : Nat) : ValueTracks depth := by
  induction depth with
  | zero => exact valueTracksInside nofun
  | succ depth ih => exact valueTracksInside fun less same => Nat.succ.inj same ▸ ih

theorem skipTracks (c : Cursor) :
    Tracks c.left (fun _ => skipValue c) (fun _ after => .ok after)
      (readValue greatestDepth c) :=
  ((valueTracks greatestDepth).anywhere [] c).fixed (Nat.lt_succ_self c.left)

theorem checkBuilt {bytes : Bytes} {value : Json} (built : ofBytes? bytes = .ok value) :
    checkDocument bytes = .ok () := by
  have tracks := skipTracks (.start bytes)
  rw [ofBytes?] at built
  rw [checkDocument]
  generalize readValue greatestDepth (.start bytes) = read at built tracks
  cases tracks with
  | @built value after _ same =>
    obtain ⟨_, _, goes⟩ := same _ (Nat.lt_succ_self _)
    rw [goes]
    cases ends : finish after with
    | ok => exact ends
    | error error =>
      exfalso
      simp [bind, Except.bind, ends] at built
  | finer => cases built
  | refused => cases built

/-- What passes for a document and still cannot be built has a fault that its form does not show. -/
theorem faultUnseen {bytes : Bytes} {error : Error} (failed : ofBytes? bytes = .error error)
    (checked : checkDocument bytes = .ok ()) : error.fault.ofBuilding = true := by
  have tracks := skipTracks (.start bytes)
  rw [ofBytes?] at failed
  rw [checkDocument] at checked
  generalize readValue greatestDepth (.start bytes) = read at failed tracks
  cases tracks with
  | @built value after _ same =>
    obtain ⟨_, _, goes⟩ := same _ (Nat.lt_succ_self _)
    rw [goes] at checked
    have ends : finish after = .ok () := checked
    simp [bind, Except.bind, ends] at failed
  | finer building =>
    cases failed
    exact building
  | refused fails =>
    cases skipped : skipValue (.start bytes) with
    | ok after => exact (fails _ (Nat.lt_succ_self _) after skipped).elim
    | error error =>
      rw [skipped] at checked
      cases checked

end BrokerVault.Json
