import BrokerVault.Proofs.Json.Scalars
import BrokerVault.Proofs.Json.Spelling
import BrokerVault.Proofs.NameMap
import Mathlib.Data.List.Induction

/-! Printed values under reading. What was read from a text, with no number in it but integers, is
printed to a text that is read as the same value: the members of its objects are in order, and it is
nested no deeper than what is read may be. -/
namespace BrokerVault

namespace NameMap

variable {α : Type}

theorem insertLast {name : String} (value : α) {map : NameMap α}
    (above : ∀ other ∈ map.names, other < name) :
    map.insert name value = map ++ [(name, value)] := by
  induction map with
  | nil => rfl
  | cons entry rest ih =>
    obtain ⟨first, others⟩ := List.forall_mem_cons.1 above
    have notBefore : ¬name < entry.1 := fun less =>
      String.lt_irrefl _ (String.lt_trans less first)
    have notSame : name ≠ entry.1 := fun same => String.lt_irrefl name (by rwa [← same] at first)
    rw [insert, if_neg notBefore, if_neg notSame, ih others]
    rfl

theorem insertedEntry {name : String} {value : α} {map : NameMap α} {entry : String × α}
    (place : entry ∈ map.insert name value) : entry = (name, value) ∨ entry ∈ map := by
  induction map with
  | nil => exact .inl (List.mem_singleton.1 place)
  | cons first rest ih =>
    rw [insert] at place
    split at place
    · exact List.mem_cons.1 place
    · split at place
      · exact (List.mem_cons.1 place).imp_right (List.mem_cons_of_mem _)
      · rcases List.mem_cons.1 place with rfl | later
        · exact .inr List.mem_cons_self
        · exact (ih later).imp_right (List.mem_cons_of_mem _)

theorem ofListEntries (entries : List (String × α)) :
    (ofList entries).Ascending ∧ ∀ entry ∈ ofList entries, entry ∈ entries := by
  induction entries using List.reverseRecOn with
  | nil => exact ⟨.nil, nofun⟩
  | append_singleton entries last ih =>
    have grown : ofList (entries ++ [last]) = (ofList entries).insert last.1 last.2 := by
      simp only [ofList, List.foldl_append]
      rfl
    rw [grown]
    refine ⟨insertAscending _ _ ih.1, fun entry place => ?_⟩
    rcases insertedEntry place with rfl | earlier
    · exact List.mem_append_right _ (List.mem_singleton_self _)
    · exact List.mem_append_left _ (ih.2 entry earlier)

end NameMap

namespace Json

inductive Integral : Json → Prop where
  | null : Integral .null
  | bool (value : Bool) : Integral (.bool value)
  | string (value : String) : Integral (.string value)
  | number {value : Int} (within : Within64 value) : Integral (.number (.integer value))
  | array {items} (each : ∀ item ∈ items, Integral item) : Integral (.array items)
  | object {members} (each : ∀ member ∈ members, Integral member.2) : Integral (.object members)

/-- It can be read back where `depth` more arrays or objects may be opened. -/
inductive Fits : (depth : Nat) → Json → Prop where
  | null {depth} : Fits depth .null
  | bool {depth} (value : Bool) : Fits depth (.bool value)
  | string {depth} (value : String) : Fits depth (.string value)
  | number {depth} {value : Int} (within : Within64 value) : Fits depth (.number (.integer value))
  | array {depth items} (each : ∀ item ∈ items, Fits depth item) : Fits (depth + 1) (.array items)
  | object {depth members} (ascending : NameMap.Ascending members)
      (each : ∀ member ∈ members, Fits depth member.2) : Fits (depth + 1) (.object members)

theorem Fits.integral {depth : Nat} {value : Json} (fits : Fits depth value) : Integral value := by
  induction fits with
  | null => exact .null
  | bool value => exact .bool value
  | string value => exact .string value
  | number within => exact .number within
  | array _ ih => exact .array ih
  | object _ _ ih => exact .object ih

/-! Entries of containers. -/

section Entries

variable {α : Type} (print : α → Bytes)

def following (entries : List α) : Bytes := entries.flatMap fun entry => 0x2C :: print entry

def joined : List α → Bytes
  | [] => []
  | entry :: entries => print entry ++ following print entries

theorem followingCons (entry : α) (entries : List α) (rest : Bytes) :
    following print (entry :: entries) ++ rest =
      0x2C :: (print entry ++ (following print entries ++ rest)) := by
  simp [following]

theorem followingLength (entries : List α) : entries.length ≤ (following print entries).length := by
  induction entries with
  | nil => exact Nat.le_refl _
  | cons entry entries ih =>
    simp only [following, List.flatMap_cons, List.length_append, List.length_cons] at ih ⊢
    omega

theorem joinedRoom (entry : α) (entries : List α) (byte : UInt8) (rest : Bytes) :
    ∃ spare, (joined print (entry :: entries) ++ byte :: rest).length =
      spare + entries.length + 1 := by
  have each := followingLength print entries
  refine ⟨(joined print (entry :: entries) ++ byte :: rest).length - entries.length - 1, ?_⟩
  simp only [joined, List.length_append, List.length_cons]
  omega

theorem followingEnds (frame : Frame) (entries : List α) (rest : Bytes) :
    Ends (following print entries ++ frame.closing :: rest) := by
  cases entries with
  | nil => exact frame.endsBefore rest
  | cons entry entries =>
    rw [followingCons]
    exact .before (by decide) (by decide) (by decide) (by decide) _

theorem joinedTexts (text : α → String) (entries : List α) :
    Bytes.ofText (String.intercalate "," (entries.map text)) =
      joined (fun entry => .ofText (text entry)) entries := by
  induction entries with
  | nil => rfl
  | cons entry entries ih =>
    cases entries with
    | nil =>
      rw [List.map_singleton, String.intercalate_singleton]
      exact (List.append_nil _).symm
    | cons next entries =>
      rw [List.map_cons, List.map_cons, joinedCons, ← List.map_cons, ih]
      simp [joined, following]

end Entries

/-! Arrays. -/

theorem nextItemFirst {bytes : Bytes} (starts : Starts bytes) (rest : Bytes) (position : Position) :
    nextItem? true ⟨bytes ++ rest, position⟩ = .ok (some ⟨bytes ++ rest, position⟩) := by
  obtain ⟨byte, blanks, next, list, _⟩ := starts.next rest position
  simp only [nextItem?, blanks, next, if_neg list, ↓reduceIte]

theorem nextItemBehind {bytes : Bytes} (starts : Starts bytes) (rest : Bytes)
    (position : Position) :
    nextItem? false ⟨0x2C :: (bytes ++ rest), position⟩ =
      .ok (some ⟨bytes ++ rest, Cursor.past position 0x2C⟩) := by
  obtain ⟨byte, blanks, next, list, _⟩ := starts.next rest (Cursor.past position 0x2C)
  have comma : Cursor.skipBlanks ⟨0x2C :: (bytes ++ rest), position⟩ =
      ⟨0x2C :: (bytes ++ rest), position⟩ := rfl
  have behind : Cursor.advance ⟨0x2C :: (bytes ++ rest), position⟩ =
      ⟨bytes ++ rest, Cursor.past position 0x2C⟩ := rfl
  have here : Cursor.next? ⟨0x2C :: (bytes ++ rest), position⟩ = some 0x2C := rfl
  have inside : (0x2C : UInt8) ≠ 0x5D := by decide
  simp only [nextItem?, comma, here, if_neg inside, behind, blanks, next, if_neg list,
    Bool.false_eq_true, ↓reduceIte]

section Containers

variable {α : Type} {item : Cursor → Except Error (α × Cursor)} {print : α → Bytes}
  {c ahead behind : Cursor} {value : α}

theorem readItemsClosing (fuel : Nat) (done : List α) (rest : Bytes) (position : Position) :
    readItems item (fuel + 1) done ⟨0x5D :: rest, position⟩ =
      .ok (done.reverse, ⟨rest, Cursor.past position 0x5D⟩) := rfl

theorem readItemsNext (done : List α) {first : Bool} (begun : done.isEmpty = first)
    (looked : nextItem? first c = .ok (some ahead)) (read : item ahead = .ok (value, behind))
    (fuel : Nat) :
    readItems item (fuel + 1) done c = readItems item fuel (value :: done) behind := by
  simp only [readItems, begun, looked, bind, Except.bind, read]

theorem itemsReadBehind {items : List α}
    (each : ∀ value ∈ items, Starts (print value) ∧ Reads item (print value) value) (fuel : Nat)
    (last : α) (done : List α) (rest : Bytes) (position : Position) :
    ∃ after, readItems item (fuel + items.length + 1) (last :: done)
        ⟨following print items ++ 0x5D :: rest, position⟩ =
      .ok ((last :: done).reverse ++ items, ⟨rest, after⟩) := by
  -- On the items, each of which stands behind a comma.
  induction items generalizing last done position with
  | nil =>
    refine ⟨Cursor.past position 0x5D, ?_⟩
    rw [List.append_nil]
    exact readItemsClosing fuel (last :: done) rest position
  | cons value items ih =>
    obtain ⟨⟨starts, reads⟩, others⟩ := List.forall_mem_cons.1 each
    have ends : Ends (following print items ++ 0x5D :: rest) := followingEnds print .list items rest
    obtain ⟨middle, read⟩ := reads _ (Cursor.past position 0x2C) ends
    obtain ⟨after, followed⟩ := ih others value (last :: done) middle
    refine ⟨after, ?_⟩
    rw [followingCons, readItemsNext (last :: done) rfl (nextItemBehind starts _ position) read]
    refine followed.trans ?_
    rw [List.reverse_cons, List.append_assoc]
    rfl

theorem arrayReads {items : List α}
    (each : ∀ value ∈ items, Starts (print value) ∧ Reads item (print value) value) (rest : Bytes)
    (position : Position) :
    ∃ after, readArray item ⟨joined print items ++ 0x5D :: rest, position⟩ =
      .ok (items, ⟨rest, after⟩) := by
  cases items with
  | nil => exact ⟨Cursor.past position 0x5D, rfl⟩
  | cons value items =>
    obtain ⟨⟨starts, reads⟩, others⟩ := List.forall_mem_cons.1 each
    have ends : Ends (following print items ++ 0x5D :: rest) := followingEnds print .list items rest
    have layout : joined print (value :: items) ++ 0x5D :: rest =
        print value ++ (following print items ++ 0x5D :: rest) := by simp [joined]
    obtain ⟨spare, length⟩ := joinedRoom print value items 0x5D rest
    obtain ⟨middle, read⟩ := reads _ position ends
    obtain ⟨after, followed⟩ := itemsReadBehind others spare value [] rest middle
    refine ⟨after, ?_⟩
    rw [readArray, length, layout, readItemsNext [] rfl (nextItemFirst starts _ position) read]
    exact followed

/-! Objects. -/

def printedMember (member : String × Json) : Bytes :=
  .ofText (escaped member.1 ++ ":" ++ member.2.text)

theorem printedMemberLayout (member : String × Json) (rest : Bytes) :
    printedMember member ++ rest =
      0x22 :: (quoted member.1 ++ 0x3A :: (.ofText member.2.text ++ rest)) := by
  have colon : Bytes.ofText ":" = [0x3A] := by decide
  rw [printedMember, ofTextAppend, ofTextAppend, colon, ofTextEscaped]
  simp

theorem nextNameFirst (name : String) (rest : Bytes) (position : Position) :
    ∃ after, nextName? true ⟨0x22 :: (quoted name ++ rest), position⟩ =
      .ok (some (name, ⟨rest, after⟩)) := by
  obtain ⟨after, read⟩ := stringReads name rest (Cursor.past position 0x22)
  refine ⟨after, ?_⟩
  show (readString ⟨quoted name ++ rest, Cursor.past position 0x22⟩).map some = _
  rw [read]
  rfl

theorem nextNameBehind (name : String) (rest : Bytes) (position : Position) :
    ∃ after, nextName? false ⟨0x2C :: 0x22 :: (quoted name ++ rest), position⟩ =
      .ok (some (name, ⟨rest, after⟩)) := by
  obtain ⟨after, read⟩ :=
    stringReads name rest (Cursor.past (Cursor.past position 0x2C) 0x22)
  refine ⟨after, ?_⟩
  show (readString ⟨quoted name ++ rest, Cursor.past (Cursor.past position 0x2C) 0x22⟩).map some = _
  rw [read]
  rfl

section Members

variable {depth : Nat} {first : Bool} {member : String × Json} {rest : Bytes} {place : Position}

theorem readMembersNext (map : NameMap Json)
    (looked : nextName? first c =
      .ok (some (member.1, ⟨0x3A :: (Bytes.ofText member.2.text ++ rest), place⟩)))
    (reads : Reads (readValue depth) (Bytes.ofText member.2.text) member.2) (ends : Ends rest)
    (above : ∀ name ∈ map.names, name < member.1) (fuel : Nat) :
    ∃ after, readMembers (readMember depth) (fuel + 1) first map c =
      readMembers (readMember depth) fuel false (map ++ [member]) ⟨rest, after⟩ := by
  obtain ⟨after, read⟩ := reads rest (Cursor.past place 0x3A) ends
  have colon : readColon ⟨0x3A :: (Bytes.ofText member.2.text ++ rest), place⟩ =
      .ok ⟨Bytes.ofText member.2.text ++ rest, Cursor.past place 0x3A⟩ := rfl
  refine ⟨after, ?_⟩
  simp only [readMembers, looked, bind, Except.bind, readMember, colon, read,
    NameMap.insertLast member.2 above]

theorem membersReadBehind {members : List (String × Json)}
    (each : ∀ member ∈ members, Reads (readValue depth) (Bytes.ofText member.2.text) member.2)
    (map : NameMap Json) (ascending : NameMap.Ascending (map ++ members)) (fuel : Nat)
    (rest : Bytes) (position : Position) :
    ∃ after, readMembers (readMember depth) (fuel + members.length + 1) false map
        ⟨following printedMember members ++ 0x7D :: rest, position⟩ =
      .ok (map ++ members, ⟨0x7D :: rest, after⟩) := by
  -- On the members: in order, each is inserted behind those before.
  induction members generalizing map position with
  | nil =>
    rw [List.append_nil]
    exact ⟨position, rfl⟩
  | cons member members ih =>
    obtain ⟨reads, others⟩ := List.forall_mem_cons.1 each
    have ends : Ends (following printedMember members ++ 0x7D :: rest) :=
      followingEnds printedMember .object members rest
    have above : ∀ name ∈ map.names, name < member.1 := by
      have order := ascending
      rw [NameMap.Ascending, NameMap.names, List.map_append] at order
      exact fun name place => (List.pairwise_append.1 order).2.2 name place _ List.mem_cons_self
    rw [followingCons, printedMemberLayout]
    obtain ⟨middle, looked⟩ := nextNameBehind member.1 (0x3A :: (Bytes.ofText member.2.text ++
      (following printedMember members ++ 0x7D :: rest))) position
    obtain ⟨behind, read⟩ := readMembersNext map looked reads ends above (fuel + members.length + 1)
    rw [List.append_cons] at ascending
    obtain ⟨after, followed⟩ := ih others (map ++ [member]) ascending behind
    refine ⟨after, read.trans (followed.trans ?_)⟩
    rw [← List.append_cons]

theorem objectReads {members : List (String × Json)}
    (each : ∀ member ∈ members, Reads (readValue depth) (Bytes.ofText member.2.text) member.2)
    (ascending : NameMap.Ascending members) (rest : Bytes) (position : Position) :
    ∃ after,
      readObject (readMember depth) [] ⟨joined printedMember members ++ 0x7D :: rest, position⟩ =
        .ok (members, ⟨0x7D :: rest, after⟩) := by
  cases members with
  | nil => exact ⟨position, rfl⟩
  | cons member members =>
    obtain ⟨reads, others⟩ := List.forall_mem_cons.1 each
    have ends : Ends (following printedMember members ++ 0x7D :: rest) :=
      followingEnds printedMember .object members rest
    have layout : joined printedMember (member :: members) ++ 0x7D :: rest =
        0x22 :: (quoted member.1 ++ 0x3A :: (Bytes.ofText member.2.text ++
          (following printedMember members ++ 0x7D :: rest))) := by
      rw [← printedMemberLayout]
      simp [joined]
    obtain ⟨spare, length⟩ := joinedRoom printedMember member members 0x7D rest
    obtain ⟨middle, looked⟩ := nextNameFirst member.1 (0x3A :: (Bytes.ofText member.2.text ++
      (following printedMember members ++ 0x7D :: rest))) position
    obtain ⟨behind, read⟩ := readMembersNext [] looked reads ends nofun (spare + members.length + 1)
    obtain ⟨after, followed⟩ := membersReadBehind others [member] ascending spare rest behind
    refine ⟨after, ?_⟩
    rw [readObject, length, layout]
    exact read.trans followed

end Members

end Containers

/-! Values. -/

theorem itemTextsMap (items : List Json) : itemTexts items = items.map text := by
  induction items with
  | nil => rfl
  | cons item rest ih => rw [itemTexts, ih, List.map_cons]

theorem memberTextsMap (members : List (String × Json)) :
    memberTexts members = members.map fun member => escaped member.1 ++ ":" ++ member.2.text := by
  induction members with
  | nil => rfl
  | cons member rest ih => rw [memberTexts, ih, List.map_cons]

theorem nullReads (depth : Nat) : Reads (readValue depth) (Bytes.ofText "null") .null := by
  intro rest position _
  rw [readValue.eq_def]
  exact ⟨_, rfl⟩

theorem boolReads (depth : Nat) (value : Bool) :
    Reads (readValue depth) (Bytes.ofText (if value then "true" else "false")) (.bool value) := by
  intro rest position _
  rw [readValue.eq_def]
  cases value <;> exact ⟨_, rfl⟩

theorem escapedReads (depth : Nat) (text : String) :
    Reads (readValue depth) (Bytes.ofText (escaped text)) (.string text) := by
  intro rest position _
  obtain ⟨after, read⟩ := stringReads text rest (Cursor.past position 0x22)
  refine ⟨after, ?_⟩
  rw [readValue.eq_def, ofTextEscaped]
  show (readString ⟨quoted text ++ rest, Cursor.past position 0x22⟩).map _ = _
  rw [read]
  rfl

theorem numberReads (depth : Nat) {value : Int} (within : Within64 value) :
    Reads (readValue depth) (Bytes.ofText (toString value)) (.number (.integer value)) := by
  intro rest position ends
  obtain ⟨after, read⟩ := integerReads within rest position ends
  obtain ⟨byte, others, shown, first⟩ := (integerNumeral value).first
  rw [shown] at read ⊢
  have reached : readValue depth ⟨byte :: others ++ rest, position⟩ =
      (readNumber ⟨byte :: others ++ rest, position⟩).map fun read => (.number read.1, read.2) := by
    rw [readValue.eq_def]
    rcases numeralFirst first with rfl | rfl | rfl | rfl | rfl | rfl | rfl | rfl | rfl | rfl | rfl
      <;> rfl
  exact ⟨after, by rw [reached, read]; rfl⟩

theorem Fits.reads {depth : Nat} {value : Json} (fits : Fits depth value) :
    Reads (readValue depth) (Bytes.ofText value.text) value := by
  induction fits with
  | null => exact nullReads _
  | bool value => exact boolReads _ value
  | string value => exact escapedReads _ value
  | number within => exact numberReads _ within
  | @array depth items _ ih =>
    intro rest position _
    have brackets : Bytes.ofText "[" = [0x5B] ∧ Bytes.ofText "]" = [0x5D] := by decide
    obtain ⟨after, read⟩ := arrayReads (fun item place => ⟨(valueSkips item).starts, ih item place⟩)
      rest (Cursor.past position 0x5B)
    refine ⟨after, ?_⟩
    rw [text, ofTextAppend, ofTextAppend, brackets.1, brackets.2, itemTextsMap, joinedTexts,
      List.append_assoc, List.append_assoc, readValueArray rfl]
    show (readArray (readValue depth)
      ⟨joined _ items ++ 0x5D :: rest, Cursor.past position 0x5B⟩).map _ = _
    rw [read]
    rfl
  | @object depth members ascending _ ih =>
    intro rest position _
    have braces : Bytes.ofText "\x7b" = [0x7B] ∧ Bytes.ofText "\x7d" = [0x7D] := by decide
    obtain ⟨after, read⟩ := objectReads ih ascending rest (Cursor.past position 0x7B)
    refine ⟨Cursor.past after 0x7D, ?_⟩
    rw [text, ofTextAppend, ofTextAppend, braces.1, braces.2, memberTextsMap, joinedTexts,
      List.append_assoc, List.append_assoc, readValueObject rfl]
    show (readObject (readMember depth) [] ⟨joined printedMember members ++ 0x7D :: rest,
      Cursor.past position 0x7B⟩).map _ = _
    rw [read]
    rfl

theorem Fits.readsBack {value : Json} (fits : Fits greatestDepth value) :
    ofBytes? (Bytes.ofText value.text) = .ok value := by
  obtain ⟨after, read⟩ := fits.reads [] ⟨1, 0⟩ fun _ found => nomatch found
  rw [List.append_nil] at read
  rw [ofBytes?, Cursor.start, read]
  rfl

/-! What was read. -/

theorem ItemsRead.each {α : Type} {item : Cursor → Except Error (α × Cursor)} {fuel : Nat}
    {first : Bool} {c after : Cursor} {items : List α}
    (read : ItemsRead item fuel first c items after) :
    ∀ value ∈ items, ∃ ahead behind, item ahead = .ok (value, behind) := by
  induction read with
  | closing => exact nofun
  | item _ one _ ih => exact List.forall_mem_cons.2 ⟨⟨_, _, one⟩, ih⟩

theorem MembersRead.each {α : Type} {read : Cursor → Except Error (α × Cursor)} {fuel : Nat}
    {first : Bool} {c after : Cursor} {members : List (String × α)}
    (found : MembersRead read fuel first c members after) :
    ∀ member ∈ members, ∃ ahead behind, read ahead = .ok (member.2, behind) := by
  induction found with
  | closing => exact nofun
  | member _ _ one _ ih => exact List.forall_mem_cons.2 ⟨⟨_, _, one⟩, ih⟩

theorem ScalarAt.fits {c : Cursor} {value : Json} (kind : ScalarAt c value)
    (integral : Integral value) (depth : Nat) : Fits depth value := by
  cases kind with
  | null => exact .null
  | yes => exact .bool true
  | no => exact .bool false
  | string => exact .string _
  | number =>
    cases integral with
    | number within => exact .number within

theorem spelledFits {depth : Nat} {c after : Cursor} {spelling : Spelling}
    (read : readSpelling depth c = .ok (spelling, after)) (integral : Integral spelling.value) :
    Fits depth spelling.value := by
  -- On the depth, which is less by one for what stands inside.
  induction depth generalizing c after spelling with
  | zero =>
    cases spellingRead read with
    | scalar _ _ kind => exact kind.fits integral 0
  | succ depth ih =>
    cases spellingRead read with
    | scalar _ _ kind => exact kind.fits integral _
    | @array _ items _ _ found =>
      rw [Spelling.value] at integral ⊢
      cases integral with
      | array integral =>
        refine .array fun value place => ?_
        have whole := integral value place
        rw [Spelling.valuesMap] at place
        obtain ⟨item, inside, rfl⟩ := List.mem_map.1 place
        obtain ⟨_, _, one⟩ := found.each item inside
        exact ih one whole
    | @object _ members _ _ found =>
      rw [Spelling.value, ofMembers] at integral ⊢
      cases integral with
      | object integral =>
        obtain ⟨ascending, entries⟩ := NameMap.ofListEntries (Spelling.memberValues members)
        refine .object ascending fun member place => ?_
        have whole := integral member place
        have among := entries member place
        rw [Spelling.memberValuesMap] at among
        obtain ⟨spelled, inside, rfl⟩ := List.mem_map.1 among
        obtain ⟨_, _, one⟩ := found.each spelled inside
        exact ih one whole

theorem builtFits {bytes : Bytes} {value : Json} (built : ofBytes? bytes = .ok value)
    (integral : Integral value) : Fits greatestDepth value := by
  rw [ofBytes?, valueOfSpelling] at built
  cases read : readSpelling greatestDepth (.start bytes) with
  | error error =>
    rw [read] at built
    cases built
  | ok found =>
    rw [read] at built
    obtain ⟨spelling, after⟩ := found
    have same : spelling.value = value := by
      change (finish after >>= fun _ => .ok spelling.value) = .ok value at built
      cases ends : finish after with
      | error error =>
        rw [ends] at built
        cases built
      | ok =>
        rw [ends] at built
        exact Except.ok.inj built
    exact same ▸ spelledFits read (same ▸ integral)

theorem builtReadsBack {bytes : Bytes} {value : Json} (built : ofBytes? bytes = .ok value)
    (integral : Integral value) : ofBytes? (Bytes.ofText value.text) = .ok value :=
  (builtFits built integral).readsBack

end Json
end BrokerVault
