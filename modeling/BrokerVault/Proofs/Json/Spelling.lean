import BrokerVault.Proofs.Json.Agreement

/-! Values as their text spells them: the members of an object in the order of the text, a name as
often as it stands there. What a text stands for is the value of its spelling. -/
namespace BrokerVault.Json

inductive Spelling where
  | scalar (value : Json)
  | array (items : List Spelling)
  | object (members : List (String × Spelling))

namespace Spelling

mutual

def value : Spelling → Json
  | .scalar value => value
  | .array items => .array (values items)
  | .object members => .ofMembers (memberValues members)

def values : List Spelling → List Json
  | [] => []
  | item :: rest => item.value :: values rest

def memberValues : List (String × Spelling) → List (String × Json)
  | [] => []
  | (name, spelling) :: rest => (name, spelling.value) :: memberValues rest

end

inductive Distinct : Spelling → Prop where
  | scalar (value : Json) : Distinct (.scalar value)
  | array {items} (each : ∀ item ∈ items, Distinct item) : Distinct (.array items)
  | object {members} (names : (members.map Prod.fst).Nodup)
      (each : ∀ member ∈ members, Distinct member.2) : Distinct (.object members)

mutual

def distinct : Spelling → Bool
  | .scalar _ => true
  | .array items => itemsDistinct items
  | .object members => decide (members.map Prod.fst).Nodup && membersDistinct members

def itemsDistinct : List Spelling → Bool
  | [] => true
  | item :: rest => item.distinct && itemsDistinct rest

def membersDistinct : List (String × Spelling) → Bool
  | [] => true
  | (_, spelling) :: rest => spelling.distinct && membersDistinct rest

end

mutual

theorem distinctIff : ∀ spelling : Spelling, spelling.distinct = true ↔ spelling.Distinct
  | .scalar value => ⟨fun _ => .scalar value, fun _ => rfl⟩
  | .array items => by
    rw [distinct, itemsDistinctIff items]
    exact ⟨.array, fun | .array each => each⟩
  | .object members => by
    rw [distinct, Bool.and_eq_true, decide_eq_true_iff, membersDistinctIff members]
    exact ⟨fun ⟨names, each⟩ => .object names each, fun | .object names each => ⟨names, each⟩⟩

theorem itemsDistinctIff : ∀ items : List Spelling,
    itemsDistinct items = true ↔ ∀ item ∈ items, item.Distinct
  | [] => ⟨fun _ => nofun, fun _ => rfl⟩
  | item :: rest => by
    rw [itemsDistinct, Bool.and_eq_true, distinctIff item, itemsDistinctIff rest,
      List.forall_mem_cons]

theorem membersDistinctIff : ∀ members : List (String × Spelling),
    membersDistinct members = true ↔ ∀ member ∈ members, member.2.Distinct
  | [] => ⟨fun _ => nofun, fun _ => rfl⟩
  | (name, spelling) :: rest => by
    rw [membersDistinct, Bool.and_eq_true, distinctIff spelling, membersDistinctIff rest,
      List.forall_mem_cons]

end

instance (spelling : Spelling) : Decidable spelling.Distinct :=
  decidable_of_iff _ (distinctIff spelling)

theorem valuesMap (items : List Spelling) : values items = items.map value := by
  induction items with
  | nil => rfl
  | cons item rest ih => rw [values, ih, List.map_cons]

theorem memberValuesMap (members : List (String × Spelling)) :
    memberValues members = members.map fun (name, spelling) => (name, spelling.value) := by
  induction members with
  | nil => rfl
  | cons member rest ih => rw [memberValues, ih, List.map_cons]

theorem memberNames (members : List (String × Spelling)) :
    (memberValues members).map Prod.fst = members.map Prod.fst := by
  rw [memberValuesMap, List.map_map]
  rfl

end Spelling

def spelledMember (read : Cursor → Except Error (Spelling × Cursor)) (name : String)
    (members : List (String × Spelling)) (c : Cursor) :
    Except Error (List (String × Spelling) × Cursor) := do
  let c ← readColon c
  let (spelling, c) ← read c
  .ok (members ++ [(name, spelling)], c)

def readSpelling (depth : Nat) (c : Cursor) : Except Error (Spelling × Cursor) :=
  let c := c.skipBlanks
  if c.next? = some 0x5B then
    match depth with
    | 0 => c.faultPeeking .nesting
    | depth + 1 =>
      (readArray (readSpelling depth) c.advance).map fun (items, c) => (.array items, c)
  else if c.next? = some 0x7B then
    match depth with
    | 0 => c.faultPeeking .nesting
    | depth + 1 => do
      let (members, c) ← readObject (spelledMember (readSpelling depth)) [] c.advance
      .ok (.object members, closeObject c)
  else
    -- Nothing opens here, so no depth is used.
    (readValue 0 c).map fun (value, c) => (.scalar value, c)

def spellingOfText? (text : String) : Except Error Spelling := do
  let (spelling, c) ← readSpelling greatestDepth (.start (.ofText text))
  finish c
  .ok spelling

def NamesDistinct (text : String) : Prop :=
  ∃ spelling, spellingOfText? text = .ok spelling ∧ spelling.Distinct

instance (text : String) : Decidable (NamesDistinct text) :=
  match spelled : spellingOfText? text with
  | .ok spelling => decidable_of_iff spelling.Distinct
      ⟨fun distinct => ⟨spelling, spelled, distinct⟩, fun ⟨_, same, distinct⟩ =>
        Except.ok.inj (spelled.symm.trans same) ▸ distinct⟩
  | .error _ => .isFalse fun ⟨_, same, _⟩ => nomatch spelled.symm.trans same

/-! What a value begins with. -/

inductive ScalarAt (c : Cursor) : Json → Prop where
  | null : ScalarAt c .null
  | yes (next : c.next? = some 0x74) : ScalarAt c (.bool true)
  | no (next : c.next? = some 0x66) : ScalarAt c (.bool false)
  | string {text} (next : c.next? = some 0x22) : ScalarAt c (.string text)
  | number {number} : ScalarAt c (.number number)

section Reading

variable {c after : Cursor} {depth : Nat}

theorem charOfByte {byte : UInt8} (other : UInt8)
    (same : Char.ofNat byte.toNat = Char.ofNat other.toNat) : byte = other := by
  have number (byte : UInt8) : (Char.ofNat byte.toNat).toNat = byte.toNat := by
    have valid : byte.toNat.isValidChar := .inl (Nat.lt_trans byte.toNat_lt (by decide))
    rw [Char.ofNat, dif_pos valid]
    rfl
  have numbers := congrArg Char.toNat same
  rw [number, number] at numbers
  exact UInt8.toNat_inj.1 numbers

theorem okOfMap {ε α β : Type} {found : Except ε α} {change : α → β} {result : β}
    (done : found.map change = .ok result) : ∃ value, found = .ok value ∧ change value = result := by
  cases found with
  | error => cases done
  | ok value => exact ⟨value, rfl, Except.ok.inj done⟩

theorem scalarAt {value : Json} (read : readValue 0 c = .ok (value, after)) :
    ScalarAt c.skipBlanks value := by
  cases next : c.skipBlanks.next? with
  | none =>
    rw [readValueOver 0 next] at read
    cases read
  | some byte =>
    have starts {char : Char} (same : Char.ofNat byte.toNat = char) (first : UInt8)
        (known : char = Char.ofNat first.toNat) : c.skipBlanks.next? = some first :=
      next.trans (congrArg some (charOfByte first (same.trans known)))
    rw [readValue.eq_def] at read
    simp only [next] at read
    split at read
    · obtain ⟨_, _, same⟩ := okOfMap read
      cases same
      exact .null
    · rename_i letter
      obtain ⟨_, _, same⟩ := okOfMap read
      cases same
      exact .yes (starts letter 0x74 rfl)
    · rename_i letter
      obtain ⟨_, _, same⟩ := okOfMap read
      cases same
      exact .no (starts letter 0x66 rfl)
    · rename_i quote
      obtain ⟨_, _, same⟩ := okOfMap read
      cases same
      exact .string (starts quote 0x22 rfl)
    · cases read
    · cases read
    · split at read
      · obtain ⟨_, _, same⟩ := okOfMap read
        cases same
        exact .number
      · cases read

theorem readValueScalar (list : c.skipBlanks.next? ≠ some 0x5B)
    (object : c.skipBlanks.next? ≠ some 0x7B) : readValue depth c = readValue 0 c.skipBlanks := by
  have again := Cursor.blanksTwice c
  cases next : c.skipBlanks.next? with
  | none => rw [readValueOver depth next, readValueOver 0 (again.symm ▸ next), again]
  | some byte =>
    have noList : Char.ofNat byte.toNat ≠ '[' := fun same =>
      list (next.trans (congrArg some (charOfByte 0x5B same)))
    have noObject : Char.ofNat byte.toNat ≠ '\x7b' := fun same =>
      object (next.trans (congrArg some (charOfByte 0x7B same)))
    rw [readValue.eq_def, readValue.eq_def]
    simp only [again, next]
    split <;> first | rfl | contradiction

theorem readValueInner (opens : c.skipBlanks.next? = some 0x5B ∨ c.skipBlanks.next? = some 0x7B) :
    readValue 0 c = c.skipBlanks.faultPeeking .nesting := by
  rw [readValue.eq_def]
  rcases opens with next | next <;> simp only [next] <;> rfl

theorem readValueArray (next : c.skipBlanks.next? = some 0x5B) : readValue (depth + 1) c =
    (readArray (readValue depth) c.skipBlanks.advance).map fun (items, c) => (.array items, c) := by
  rw [readValue.eq_def]
  simp only [next]
  rfl

theorem readValueObject (next : c.skipBlanks.next? = some 0x7B) : readValue (depth + 1) c =
    (readObject (readMember depth) [] c.skipBlanks.advance).map fun (members, c) =>
      (.object members, closeObject c) := by
  rw [readValue.eq_def]
  simp only [next]
  rfl

/-! Values from spellings. -/

theorem readItemsMap {α β : Type} (change : α → β) {item : Cursor → Except Error (α × Cursor)}
    {changed : Cursor → Except Error (β × Cursor)}
    (same : ∀ c, changed c = (item c).map fun (value, c) => (change value, c)) (fuel : Nat)
    (done : List α) (c : Cursor) : readItems changed fuel (done.map change) c =
      (readItems item fuel done c).map fun (values, c) => (values.map change, c) := by
  induction fuel generalizing done c with
  | zero => rfl
  | succ fuel ih =>
    rw [readItems, readItems, List.isEmpty_map]
    cases nextItem? done.isEmpty c with
    | error error => rfl
    | ok found =>
      cases found with
      | none =>
        show (closeArray c >>= _) = Except.map _ (closeArray c >>= _)
        rw [← List.map_reverse]
        cases closeArray c <;> rfl
      | some ahead =>
        show (changed ahead >>= _) = Except.map _ (item ahead >>= _)
        rw [same]
        cases item ahead with
        | error error => rfl
        | ok read => exact ih (read.1 :: done) read.2

theorem readMembersMap {σ τ : Type} {change : σ → τ}
    {member : String → σ → Cursor → Except Error (σ × Cursor)}
    {changed : String → τ → Cursor → Except Error (τ × Cursor)}
    (same : ∀ name state c, changed name (change state) c =
      (member name state c).map fun (state, c) => (change state, c))
    (fuel : Nat) (first : Bool) (state : σ) (c : Cursor) :
    readMembers changed fuel first (change state) c =
      (readMembers member fuel first state c).map fun (state, c) => (change state, c) := by
  induction fuel generalizing first state c with
  | zero => rfl
  | succ fuel ih =>
    rw [readMembers, readMembers]
    cases nextName? first c with
    | error error => rfl
    | ok found =>
      cases found with
      | none => rfl
      | some named =>
        show (changed named.1 (change state) named.2 >>= _) =
          Except.map _ (member named.1 state named.2 >>= _)
        rw [same]
        cases member named.1 state named.2 with
        | error error => rfl
        | ok read => exact ih false read.1 read.2

theorem spelledScalar (list : c.skipBlanks.next? ≠ some 0x5B)
    (object : c.skipBlanks.next? ≠ some 0x7B) : readSpelling depth c =
      (readValue 0 c.skipBlanks).map fun (value, c) => (.scalar value, c) := by
  rw [readSpelling.eq_def]
  simp only [if_neg list, if_neg object]

theorem spelledString (next : c.skipBlanks.next? = some 0x22) : readSpelling depth c =
    (readString c.skipBlanks.advance).map fun (text, c) => (.scalar (.string text), c) := by
  rw [spelledScalar (by simp [next]) (by simp [next]), readValue.eq_def]
  simp only [Cursor.blanksTwice, next]
  cases readString c.skipBlanks.advance <;> rfl

theorem spelledTrue (next : c.skipBlanks.next? = some 0x74) : readSpelling depth c =
    (readTrue c.skipBlanks).map fun c => (.scalar (.bool true), c) := by
  rw [spelledScalar (by simp [next]) (by simp [next]), readValue.eq_def]
  simp only [Cursor.blanksTwice, next]
  cases readTrue c.skipBlanks <;> rfl

theorem spelledFalse (next : c.skipBlanks.next? = some 0x66) : readSpelling depth c =
    (readFalse c.skipBlanks).map fun c => (.scalar (.bool false), c) := by
  rw [spelledScalar (by simp [next]) (by simp [next]), readValue.eq_def]
  simp only [Cursor.blanksTwice, next]
  cases readFalse c.skipBlanks <;> rfl

theorem spelledInner (opens : c.skipBlanks.next? = some 0x5B ∨ c.skipBlanks.next? = some 0x7B) :
    readSpelling 0 c = c.skipBlanks.faultPeeking .nesting := by
  rw [readSpelling.eq_def]
  rcases opens with next | next <;> simp [next]

theorem spelledArray (next : c.skipBlanks.next? = some 0x5B) : readSpelling (depth + 1) c =
    (readArray (readSpelling depth) c.skipBlanks.advance).map fun (items, c) =>
      (.array items, c) := by
  rw [readSpelling.eq_def]
  simp only [if_pos next]

theorem spelledObject (next : c.skipBlanks.next? = some 0x7B) : readSpelling (depth + 1) c =
    (readObject (spelledMember (readSpelling depth)) [] c.skipBlanks.advance).map
      fun (members, c) => (.object members, closeObject c) := by
  have noList : c.skipBlanks.next? ≠ some 0x5B := by simp [next]
  rw [readSpelling.eq_def]
  simp only [if_neg noList, if_pos next]
  rfl

theorem memberOfSpelling (same : ∀ c, readValue depth c =
      (readSpelling depth c).map fun (spelling, c) => (spelling.value, c))
    (name : String) (members : List (String × Spelling)) (c : Cursor) :
    readMember depth name (NameMap.ofList (Spelling.memberValues members)) c =
      (spelledMember (readSpelling depth) name members c).map fun (members, c) =>
        (NameMap.ofList (Spelling.memberValues members), c) := by
  rw [readMember, spelledMember]
  cases readColon c with
  | error error => rfl
  | ok behind =>
    show (readValue depth behind >>= _) = Except.map _ (readSpelling depth behind >>= _)
    rw [same]
    cases readSpelling depth behind with
    | error error => rfl
    | ok read =>
      have inserted : NameMap.ofList (Spelling.memberValues (members ++ [(name, read.1)])) =
          NameMap.insert name read.1.value (NameMap.ofList (Spelling.memberValues members)) := by
        simp only [NameMap.ofList, Spelling.memberValuesMap, List.map_append, List.foldl_append]
        rfl
      exact congrArg (fun members => Except.ok (members, read.2)) inserted.symm

theorem valueOfSpelling (depth : Nat) (c : Cursor) : readValue depth c =
    (readSpelling depth c).map fun (spelling, c) => (spelling.value, c) := by
  induction depth generalizing c with
  | zero =>
    by_cases opens : c.skipBlanks.next? = some 0x5B ∨ c.skipBlanks.next? = some 0x7B
    · rw [spelledInner opens, readValueInner opens]
      rfl
    · rw [not_or] at opens
      rw [readValueScalar opens.1 opens.2, spelledScalar opens.1 opens.2]
      cases readValue 0 c.skipBlanks <;> rfl
  | succ depth ih =>
    by_cases list : c.skipBlanks.next? = some 0x5B
    · rw [readValueArray list, spelledArray list, readArray, readArray]
      have items := readItemsMap Spelling.value ih
        (c.skipBlanks.advance.rest.length + 1) [] c.skipBlanks.advance
      rw [List.map_nil] at items
      rw [items]
      cases readItems (readSpelling depth) _ [] c.skipBlanks.advance with
      | error error => rfl
      | ok read => simp [Except.map, Spelling.value, Spelling.valuesMap]
    · by_cases object : c.skipBlanks.next? = some 0x7B
      · rw [readValueObject object, spelledObject object, readObject, readObject]
        have members := readMembersMap (memberOfSpelling ih)
          (c.skipBlanks.advance.rest.length + 1) true [] c.skipBlanks.advance
        have none : NameMap.ofList (Spelling.memberValues []) = [] := rfl
        rw [none] at members
        rw [members]
        cases readMembers (spelledMember (readSpelling depth)) _ true [] c.skipBlanks.advance <;> rfl
      · rw [readValueScalar list object, spelledScalar list object]
        cases readValue 0 c.skipBlanks <;> rfl

theorem ofTextSpelling (text : String) :
    ofText? text = (spellingOfText? text).map Spelling.value := by
  rw [ofText?, ofBytes?, spellingOfText?, valueOfSpelling]
  cases readSpelling greatestDepth (.start (.ofText text)) with
  | error error => rfl
  | ok read =>
    show (finish read.2 >>= _) = Except.map _ (finish read.2 >>= _)
    cases finish read.2 <;> rfl

theorem spelledWhole {text : String} {spelling : Spelling}
    (spelled : spellingOfText? text = .ok spelling) :
    ∃ after, readSpelling greatestDepth (.start (.ofText text)) = .ok (spelling, after) ∧
      finish after = .ok () := by
  rw [spellingOfText?] at spelled
  cases read : readSpelling greatestDepth (.start (.ofText text)) with
  | error error =>
    rw [read] at spelled
    cases spelled
  | ok found =>
    obtain ⟨found, after⟩ := found
    simp only [read, bind, Except.bind] at spelled
    cases ends : finish after with
    | error error => simp [ends] at spelled
    | ok =>
      simp only [ends] at spelled
      cases spelled
      exact ⟨after, rfl, ends⟩

/-! The parts of a spelling. -/

theorem nextItemClosing (first : Bool) (next : c.skipBlanks.next? = some 0x5D) :
    nextItem? first c = .ok none := by
  simp only [nextItem?, next, ↓reduceIte]

theorem closingAhead {first : Bool} (looked : nextItem? first c = .ok none) :
    c.skipBlanks.next? = some 0x5D := by
  have place := itemAhead [] first c
  rw [looked] at place
  cases place with
  | closing next => exact next

theorem closeArrayEarly {first : Bool} {ahead : Cursor}
    (looked : nextItem? first c = .ok (some ahead)) : ∃ error, closeArray c = .error error := by
  cases closed : closeArray c with
  | error error => exact ⟨error, rfl⟩
  | ok behind =>
    rw [closeArray] at closed
    cases next : c.skipBlanks.next? with
    | none => simp [next, Cursor.faultPeeking, Cursor.faultAt] at closed
    | some byte =>
      simp only [next] at closed
      split at closed
      · rename_i closing
        rw [nextItemClosing first (closing ▸ next)] at looked
        cases looked
      · split at closed
        · split at closed <;> cases closed
        · cases closed

inductive ItemsRead {α : Type} (item : Cursor → Except Error (α × Cursor)) :
    Nat → Bool → Cursor → List α → Cursor → Prop where
  | closing {fuel first c} (next : c.skipBlanks.next? = some 0x5D) :
      ItemsRead item (fuel + 1) first c [] c.skipBlanks.advance
  | item {fuel first c ahead value behind rest after}
      (looked : nextItem? first c = .ok (some ahead)) (read : item ahead = .ok (value, behind))
      (others : ItemsRead item fuel false behind rest after) :
      ItemsRead item (fuel + 1) first c (value :: rest) after

theorem itemsRead {α : Type} {item : Cursor → Except Error (α × Cursor)} {fuel : Nat}
    {done items : List α} {c : Cursor} (read : readItems item fuel done c = .ok (items, after)) :
    ∃ rest, items = done.reverse ++ rest ∧ ItemsRead item fuel done.isEmpty c rest after := by
  induction fuel generalizing done c with
  | zero => cases read
  | succ fuel ih =>
    rw [readItems] at read
    cases looked : nextItem? done.isEmpty c with
    | error error =>
      rw [looked] at read
      cases read
    | ok found =>
      rw [looked] at read
      cases found with
      | none =>
        have next := closingAhead looked
        simp only [bind, Except.bind, closeArrayClosing next] at read
        cases read
        exact ⟨[], (List.append_nil _).symm, .closing next⟩
      | some ahead =>
        cases value : item ahead with
        | error error => simp [bind, Except.bind, value] at read
        | ok one =>
          simp only [bind, Except.bind, value] at read
          obtain ⟨rest, same, others⟩ := ih read
          refine ⟨one.1 :: rest, ?_, .item looked value others⟩
          rw [same, List.reverse_cons, List.append_assoc]
          rfl

inductive MembersRead {α : Type} (read : Cursor → Except Error (α × Cursor)) :
    Nat → Bool → Cursor → List (String × α) → Cursor → Prop where
  | closing {fuel first c} (looked : nextName? first c = .ok none) :
      MembersRead read (fuel + 1) first c [] c
  | member {fuel first c name ahead behind value next rest after}
      (looked : nextName? first c = .ok (some (name, ahead)))
      (colon : readColon ahead = .ok behind) (found : read behind = .ok (value, next))
      (others : MembersRead read fuel false next rest after) :
      MembersRead read (fuel + 1) first c ((name, value) :: rest) after

theorem membersRead {read : Cursor → Except Error (Spelling × Cursor)} {fuel : Nat} {first : Bool}
    {done members : List (String × Spelling)} {c : Cursor}
    (found : readMembers (spelledMember read) fuel first done c = .ok (members, after)) :
    ∃ rest, members = done ++ rest ∧ MembersRead read fuel first c rest after := by
  induction fuel generalizing first done c with
  | zero => cases found
  | succ fuel ih =>
    rw [readMembers] at found
    cases looked : nextName? first c with
    | error error =>
      rw [looked] at found
      cases found
    | ok place =>
      rw [looked] at found
      cases place with
      | none =>
        cases found
        exact ⟨[], (List.append_nil _).symm, .closing looked⟩
      | some named =>
        cases colon : readColon named.2 with
        | error error => simp [bind, Except.bind, spelledMember, colon] at found
        | ok behind =>
          cases value : read behind with
          | error error => simp [bind, Except.bind, spelledMember, colon, value] at found
          | ok one =>
            simp only [bind, Except.bind, spelledMember, colon, value] at found
            obtain ⟨rest, same, others⟩ := ih found
            refine ⟨(named.1, one.1) :: rest, ?_, .member looked colon value others⟩
            rw [same, List.append_assoc]
            rfl

inductive SpellingRead (c : Cursor) : Nat → Spelling → Cursor → Prop where
  | scalar {depth value after} (list : c.skipBlanks.next? ≠ some 0x5B)
      (object : c.skipBlanks.next? ≠ some 0x7B) (kind : ScalarAt c.skipBlanks value) :
      SpellingRead c depth (.scalar value) after
  | array {depth items after} (next : c.skipBlanks.next? = some 0x5B)
      (read : ItemsRead (readSpelling depth) (c.skipBlanks.advance.rest.length + 1) true
        c.skipBlanks.advance items after) : SpellingRead c (depth + 1) (.array items) after
  | object {depth members last} (next : c.skipBlanks.next? = some 0x7B)
      (read : MembersRead (readSpelling depth) (c.skipBlanks.advance.rest.length + 1) true
        c.skipBlanks.advance members last) :
      SpellingRead c (depth + 1) (.object members) (closeObject last)

theorem spellingRead {spelling : Spelling} (read : readSpelling depth c = .ok (spelling, after)) :
    SpellingRead c depth spelling after := by
  by_cases list : c.skipBlanks.next? = some 0x5B
  · cases depth with
    | zero =>
      rw [spelledInner (.inl list)] at read
      cases read
    | succ depth =>
      rw [spelledArray list] at read
      obtain ⟨⟨items, last⟩, found, same⟩ := okOfMap read
      cases same
      obtain ⟨_, rfl, items⟩ := itemsRead found
      exact .array list items
  · by_cases object : c.skipBlanks.next? = some 0x7B
    · cases depth with
      | zero =>
        rw [spelledInner (.inr object)] at read
        cases read
      | succ depth =>
        rw [spelledObject object] at read
        obtain ⟨⟨members, last⟩, found, same⟩ := okOfMap read
        cases same
        obtain ⟨_, rfl, members⟩ := membersRead found
        exact .object object members
    · rw [spelledScalar list object] at read
      obtain ⟨⟨value, last⟩, found, same⟩ := okOfMap read
      cases same
      have kind := scalarAt found
      rw [Cursor.blanksTwice] at kind
      exact .scalar list object kind

theorem skippedSpelling {spelling : Spelling}
    (read : readSpelling depth c = .ok (spelling, after)) : skipValue c = .ok after := by
  have built : readValue depth c = .ok (spelling.value, after) := by
    rw [valueOfSpelling, read]
    rfl
  have tracks := ((valueTracks depth).anywhere [] c).fixed (Nat.lt_succ_self c.left)
  rw [built] at tracks
  cases tracks with
  | built _ same =>
    obtain ⟨_, _, goes⟩ := same _ (Nat.lt_succ_self _)
    exact goes

end Reading

end BrokerVault.Json
