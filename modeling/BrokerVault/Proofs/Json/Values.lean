import BrokerVault.Proofs.Json.Strings

/-! Printed values under skipping. The skipping runs over the frames that are open, so what is shown
of a value is that skipping it in any frames goes on as if its last step closed them behind it; of
the entries of a frame, that they are skipped in that frame and close it. -/
namespace BrokerVault.Json

def resume (fuel : Nat) : List Frame × Cursor → Except Error Cursor
  | ([], c) => .ok c
  | (frame :: frames, c) => skipSteps fuel (frame :: frames) c

theorem skipStepsSucc (fuel : Nat) (frames : List Frame) (c : Cursor) :
    skipSteps (fuel + 1) frames c = skipStep frames c >>= resume fuel := by
  unfold skipSteps
  congr 1
  funext ⟨frames, c⟩
  cases frames <;> rfl

def Starts (bytes : Bytes) : Prop :=
  ∃ byte others, bytes = byte :: others ∧ Cursor.isBlank byte = false ∧ byte ≠ 0x5D ∧ byte ≠ 0x7D

structure Skips (bytes : Bytes) : Prop where
  starts : Starts bytes
  steps : ∀ (fuel : Nat) (frames : List Frame) (rest : Bytes) (position : Position), Ends rest →
    ∃ spare after, skipSteps (fuel + bytes.length) frames ⟨bytes ++ rest, position⟩ =
      closeFrames frames ⟨rest, after⟩ >>= resume (fuel + spare)

def Entry (frame : Frame) (bytes : Bytes) : Prop :=
  Starts bytes ∧ ∃ value, Skips value ∧ value.length ≤ bytes.length ∧
    ∀ rest position, ∃ after,
      skipName frame ⟨bytes ++ rest, position⟩ = .ok ⟨value ++ rest, after⟩

theorem Skips.ofStep {bytes : Bytes} (starts : Starts bytes)
    (step : ∀ (frames : List Frame) (rest : Bytes) (position : Position), Ends rest →
      ∃ after, skipStep frames ⟨bytes ++ rest, position⟩ = closeFrames frames ⟨rest, after⟩) :
    Skips bytes := by
  refine ⟨starts, fun fuel frames rest position ends => ?_⟩
  obtain ⟨after, stepped⟩ := step frames rest position ends
  obtain ⟨byte, others, rfl, _⟩ := starts
  refine ⟨others.length, after, ?_⟩
  rw [List.length_cons, ← Nat.add_assoc, skipStepsSucc, stepped]

theorem Starts.next {bytes : Bytes} (starts : Starts bytes) (rest : Bytes) (position : Position) :
    ∃ byte, Cursor.skipBlanks ⟨bytes ++ rest, position⟩ = ⟨bytes ++ rest, position⟩ ∧
      Cursor.next? ⟨bytes ++ rest, position⟩ = some byte ∧ byte ≠ 0x5D ∧ byte ≠ 0x7D := by
  obtain ⟨byte, others, rfl, shown, list, object⟩ := starts
  refine ⟨byte, ?_, rfl, list, object⟩
  simp [Cursor.skipBlanks, Cursor.skipBlanksFrom, shown]

theorem Ends.before {byte : UInt8} (digit : Cursor.isDigit byte = false) (point : byte ≠ 0x2E)
    (lower : byte ≠ 0x65) (upper : byte ≠ 0x45) (rest : Bytes) : Ends (byte :: rest) := by
  intro found same
  cases same
  exact ⟨digit, point, lower, upper⟩

theorem Frame.endsBefore (frame : Frame) (rest : Bytes) : Ends (frame.closing :: rest) := by
  cases frame <;> exact .before (by decide) (by decide) (by decide) (by decide) rest

/-! Scalars. -/

theorem nullSkips : Skips (Bytes.ofText "null") :=
  .ofStep ⟨0x6E, [0x75, 0x6C, 0x6C], by decide, by decide⟩ fun _ _ _ _ => ⟨_, rfl⟩

theorem boolSkips (value : Bool) : Skips (Bytes.ofText (if value then "true" else "false")) := by
  cases value
  · exact .ofStep ⟨0x66, [0x61, 0x6C, 0x73, 0x65], by decide, by decide⟩ fun _ _ _ _ => ⟨_, rfl⟩
  · exact .ofStep ⟨0x74, [0x72, 0x75, 0x65], by decide, by decide⟩ fun _ _ _ _ => ⟨_, rfl⟩

theorem stringStarts (text : String) : Starts (Bytes.ofText (escaped text)) :=
  ⟨0x22, quoted text, ofTextEscaped text, by decide⟩

theorem stringSkips (text : String) : Skips (Bytes.ofText (escaped text)) := by
  refine .ofStep (stringStarts text) fun frames rest position _ => ?_
  obtain ⟨after, passed⟩ := stringPasses text rest (Cursor.past position 0x22)
  refine ⟨after, ?_⟩
  rw [ofTextEscaped]
  show skipString ⟨quoted text ++ rest, Cursor.past position 0x22⟩ >>= closeFrames frames = _
  rw [passed]
  rfl

theorem numeralFirst {byte : UInt8} (first : byte = 0x2D ∨ Cursor.isDigit byte = true) :
    byte = 0x2D ∨ byte = 0x30 ∨ byte = 0x31 ∨ byte = 0x32 ∨ byte = 0x33 ∨ byte = 0x34 ∨
      byte = 0x35 ∨ byte = 0x36 ∨ byte = 0x37 ∨ byte = 0x38 ∨ byte = 0x39 := by
  rcases first with minus | digit
  · exact .inl minus
  · refine .inr ?_
    simp only [Cursor.isDigit, Bool.and_eq_true, decide_eq_true_eq, UInt8.le_iff_toNat_le] at digit
    have low : 48 ≤ byte.toNat := digit.1
    have high : byte.toNat ≤ 57 := digit.2
    simp only [← UInt8.toNat_inj]
    have value : byte.toNat = 48 ∨ byte.toNat = 49 ∨ byte.toNat = 50 ∨ byte.toNat = 51 ∨
        byte.toNat = 52 ∨ byte.toNat = 53 ∨ byte.toNat = 54 ∨ byte.toNat = 55 ∨
        byte.toNat = 56 ∨ byte.toNat = 57 := by omega
    exact value

theorem Numeral.first {bytes : Bytes} (form : Numeral bytes) :
    ∃ byte others, bytes = byte :: others ∧ (byte = 0x2D ∨ Cursor.isDigit byte = true) := by
  cases form with
  | parts sign whole _ _ =>
    rcases sign with rfl | rfl
    · cases whole with
      | zero => exact ⟨0x30, _, rfl, .inr rfl⟩
      | run _ digits => exact ⟨_, _, rfl, .inr (digits.all _ List.mem_cons_self)⟩
    · exact ⟨0x2D, _, rfl, .inl rfl⟩

theorem numberSkips (value : JsonNumber) : Skips (Bytes.ofText value.text) := by
  obtain ⟨byte, others, shown, first⟩ := (numberNumeral value).first
  have passes (rest : Bytes) (ends : Ends rest) := (numberNumeral value).passes ends
  rw [shown] at passes ⊢
  refine .ofStep ⟨byte, others, rfl, ?_⟩ fun frames rest position ends => ?_
  · rcases numeralFirst first with rfl | rfl | rfl | rfl | rfl | rfl | rfl | rfl | rfl | rfl | rfl
      <;> decide
  · obtain ⟨after, passed⟩ := passes rest ends position
    have step : skipStep frames ⟨byte :: others ++ rest, position⟩ =
        skipNumber ⟨byte :: others ++ rest, position⟩ >>= closeFrames frames := by
      rcases numeralFirst first with rfl | rfl | rfl | rfl | rfl | rfl | rfl | rfl | rfl | rfl | rfl
        <;> rfl
    exact ⟨after, by rw [step, passed]; rfl⟩

/-! Containers. -/

theorem Skips.item {bytes : Bytes} (skips : Skips bytes) : Entry .list bytes :=
  ⟨skips.starts, bytes, skips, Nat.le_refl _, fun _ position => ⟨position, rfl⟩⟩

theorem Skips.member {bytes : Bytes} (name : String) (skips : Skips bytes) :
    Entry .object (Bytes.ofText (escaped name) ++ 0x3A :: bytes) := by
  obtain ⟨byte, others, same, starts⟩ := stringStarts name
  refine ⟨⟨byte, others ++ 0x3A :: bytes, by rw [same]; rfl, starts⟩, bytes, skips, ?_,
    fun rest position => ?_⟩
  · rw [List.length_append, List.length_cons]
    omega
  · obtain ⟨middle, passed⟩ :=
      stringPasses name (0x3A :: (bytes ++ rest)) (Cursor.past position 0x22)
    refine ⟨Cursor.past middle 0x3A, ?_⟩
    rw [ofTextEscaped, List.append_assoc]
    show (skipString ⟨quoted name ++ 0x3A :: (bytes ++ rest), Cursor.past position 0x22⟩ >>= _) = _
    rw [passed]
    rfl

theorem joinedCons (text next : String) (texts : List String) :
    Bytes.ofText (String.intercalate "," (text :: next :: texts)) =
      Bytes.ofText text ++ 0x2C :: Bytes.ofText (String.intercalate "," (next :: texts)) := by
  have comma : Bytes.ofText "," = [0x2C] := by decide
  rw [String.intercalate_cons_cons, ofTextAppend, ofTextAppend, comma]
  simp

theorem closeFramesClosing (frame : Frame) (frames : List Frame) (rest : Bytes)
    (position : Position) :
    closeFrames (frame :: frames) ⟨frame.closing :: rest, position⟩ =
      closeFrames frames ⟨rest, Cursor.past position frame.closing⟩ := by
  cases frame <;> rfl

theorem closeFramesComma (frame : Frame) (frames : List Frame) (rest : Bytes)
    (position : Position) :
    closeFrames (frame :: frames) ⟨0x2C :: rest, position⟩ =
      skipName frame ⟨rest, Cursor.past position 0x2C⟩ >>= fun c => .ok (frame :: frames, c) := rfl

theorem entriesSkip {frame : Frame} {text : String} {texts : List String}
    (entries : ∀ entry ∈ text :: texts, Entry frame (Bytes.ofText entry)) (fuel : Nat)
    (frames : List Frame) (rest : Bytes) (position : Position) :
    ∃ spare after,
      (skipName frame ⟨Bytes.ofText (String.intercalate "," (text :: texts)) ++
          frame.closing :: rest, position⟩ >>=
        skipSteps (fuel + (Bytes.ofText (String.intercalate "," (text :: texts))).length)
          (frame :: frames)) =
      closeFrames frames ⟨rest, after⟩ >>= resume (fuel + spare) := by
  -- Each entry ends at a comma, behind which the others follow, or at the bracket.
  induction texts generalizing text fuel position with
  | nil =>
    obtain ⟨_, value, skips, shorter, named⟩ := entries text List.mem_cons_self
    obtain ⟨middle, named⟩ := named (frame.closing :: rest) position
    obtain ⟨slack, length⟩ := Nat.exists_eq_add_of_le shorter
    obtain ⟨spare, after, skipped⟩ := skips.steps (fuel + slack) (frame :: frames)
      (frame.closing :: rest) middle (frame.endsBefore rest)
    refine ⟨slack + spare, Cursor.past after frame.closing, ?_⟩
    rw [String.intercalate_singleton, named, length]
    show skipSteps _ _ _ = _
    rw [Nat.add_comm value.length, ← Nat.add_assoc, skipped, closeFramesClosing, Nat.add_assoc]
  | cons next texts ih =>
    obtain ⟨first, others⟩ := List.forall_mem_cons.1 entries
    obtain ⟨_, value, skips, shorter, named⟩ := first
    obtain ⟨slack, length⟩ := Nat.exists_eq_add_of_le shorter
    rw [joinedCons]
    generalize more : Bytes.ofText (String.intercalate "," (next :: texts)) = following at ih ⊢
    obtain ⟨middle, named⟩ := named (0x2C :: (following ++ frame.closing :: rest)) position
    obtain ⟨spare, later, skipped⟩ := skips.steps (fuel + slack + 1 + following.length)
      (frame :: frames) (0x2C :: (following ++ frame.closing :: rest)) middle
      (.before (by decide) (by decide) (by decide) (by decide) _)
    obtain ⟨further, after, followed⟩ := ih others (fuel + slack + 1 + spare)
      (Cursor.past later 0x2C)
    refine ⟨slack + 1 + spare + further, after, ?_⟩
    have steps : fuel + (Bytes.ofText text ++ 0x2C :: following).length =
        fuel + slack + 1 + following.length + value.length := by
      rw [List.length_append, List.length_cons, length]
      omega
    rw [more, Nat.add_right_comm _ spare] at followed
    rw [steps, List.append_assoc, List.cons_append, named]
    show skipSteps _ _ _ = _
    rw [skipped, closeFramesComma, bind_assoc]
    exact followed.trans (by simp only [Nat.add_assoc])

theorem joinedStarts {frame : Frame} {text : String} {texts : List String}
    (entry : Entry frame (Bytes.ofText text)) :
    Starts (Bytes.ofText (String.intercalate "," (text :: texts))) := by
  obtain ⟨⟨byte, others, same, starts⟩, _⟩ := entry
  cases texts with
  | nil => exact ⟨byte, others, by rw [String.intercalate_singleton, same], starts⟩
  | cons next texts => exact ⟨byte, _, by rw [joinedCons, same]; rfl, starts⟩

theorem Frame.opensEmpty (frame : Frame) (frames : List Frame) (rest : Bytes)
    (position : Position) : openFrame frame frames ⟨frame.closing :: rest, position⟩ =
      closeFrames frames ⟨rest, Cursor.past position frame.closing⟩ := by
  cases frame <;> rfl

theorem Starts.opens {bytes : Bytes} (starts : Starts bytes) (frame : Frame) (frames : List Frame)
    (rest : Bytes) (position : Position) : openFrame frame frames ⟨bytes ++ rest, position⟩ =
      skipName frame ⟨bytes ++ rest, position⟩ >>= fun c => .ok (frame :: frames, c) := by
  obtain ⟨byte, blanks, next, list, object⟩ := starts.next rest position
  have inside : byte ≠ frame.closing := by
    cases frame
    · exact list
    · exact object
  simp only [openFrame, blanks, next, if_neg inside]

theorem Frame.skips {frame : Frame} {opening : UInt8} {texts : List String}
    (opens : ∀ frames rest position, skipStep frames ⟨opening :: rest, position⟩ =
      openFrame frame frames ⟨rest, Cursor.past position opening⟩)
    (starts : Cursor.isBlank opening = false ∧ opening ≠ 0x5D ∧ opening ≠ 0x7D)
    (entries : ∀ entry ∈ texts, Entry frame (Bytes.ofText entry)) :
    Skips (opening :: (Bytes.ofText (String.intercalate "," texts) ++ [frame.closing])) := by
  refine ⟨⟨opening, _, rfl, starts⟩, fun fuel frames rest position _ => ?_⟩
  have steps (inner : Bytes) : skipSteps (fuel + (opening :: (inner ++ [frame.closing])).length)
      frames ⟨opening :: (inner ++ [frame.closing]) ++ rest, position⟩ =
      openFrame frame frames ⟨inner ++ frame.closing :: rest, Cursor.past position opening⟩ >>=
        resume (fuel + 1 + inner.length) := by
    have length : fuel + (opening :: (inner ++ [frame.closing])).length =
        fuel + 1 + inner.length + 1 := by
      simp only [List.length_cons, List.length_append, List.length_nil]
      omega
    rw [length, skipStepsSucc, List.cons_append, opens, List.append_assoc]
    rfl
  rw [steps]
  cases texts with
  | nil =>
    refine ⟨1, Cursor.past (Cursor.past position opening) frame.closing, ?_⟩
    exact congrArg (· >>= _) (frame.opensEmpty frames rest _)
  | cons text texts =>
    obtain ⟨spare, after, skipped⟩ := entriesSkip entries (fuel + 1) frames rest
      (Cursor.past position opening)
    refine ⟨1 + spare, after, ?_⟩
    rw [(joinedStarts (entries text List.mem_cons_self)).opens, bind_assoc, ← Nat.add_assoc]
    exact skipped

mutual

theorem valueSkips : ∀ value : Json, Skips (Bytes.ofText value.text)
  | .null => nullSkips
  | .bool value => boolSkips value
  | .number value => numberSkips value
  | .string value => stringSkips value
  | .array items => by
    have brackets : Bytes.ofText "[" = [0x5B] ∧ Bytes.ofText "]" = [Frame.list.closing] := by decide
    rw [text, ofTextAppend, ofTextAppend, brackets.1, brackets.2]
    exact Frame.skips (fun _ _ _ => rfl) (by decide) (itemsSkip items)
  | .object members => by
    have braces : Bytes.ofText "\x7b" = [0x7B] ∧ Bytes.ofText "\x7d" = [Frame.object.closing] := by
      decide
    rw [text, ofTextAppend, ofTextAppend, braces.1, braces.2]
    exact Frame.skips (fun _ _ _ => rfl) (by decide) (membersSkip members)

theorem itemsSkip : ∀ items : List Json, ∀ entry ∈ itemTexts items, Entry .list (Bytes.ofText entry)
  | [] => fun _ found => nomatch found
  | item :: rest => by
    rw [itemTexts, List.forall_mem_cons]
    exact ⟨(valueSkips item).item, itemsSkip rest⟩

theorem membersSkip : ∀ members : List (String × Json),
    ∀ entry ∈ memberTexts members, Entry .object (Bytes.ofText entry)
  | [] => fun _ found => nomatch found
  | (name, value) :: rest => by
    have colon : Bytes.ofText ":" = [0x3A] := by decide
    rw [memberTexts, List.forall_mem_cons, ofTextAppend, ofTextAppend, colon, List.append_assoc]
    exact ⟨(valueSkips value).member name, membersSkip rest⟩

end

theorem checkPrinted (value : Json) : checkDocument (Bytes.ofText value.text) = .ok () := by
  obtain ⟨spare, after, skipped⟩ :=
    (valueSkips value).steps 1 [] [] ⟨1, 0⟩ fun _ found => nomatch found
  have whole : skipValue (.start (Bytes.ofText value.text)) = .ok ⟨[], after⟩ := by
    rw [skipValue, Cursor.start, Nat.add_comm]
    rw [List.append_nil] at skipped
    exact skipped
  rw [checkDocument, whole]
  rfl

end BrokerVault.Json
