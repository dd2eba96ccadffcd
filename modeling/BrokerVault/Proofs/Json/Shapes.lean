import BrokerVault.Json.Shape
import BrokerVault.Proofs.Json.Spelling
import BrokerVault.Proofs.NameMap

/-! The two sources of a shape. Where a text spells a value and no object in it repeats a name,
reading the shape from the text and decoding it from the value end alike: in the same result, or in
a fault each. The faults may differ, since a text is read in its own order and a value in that of
its names. -/
namespace BrokerVault.Json

inductive Agree {α : Type} (after : Cursor) : Except Error α → Except Error (α × Cursor) → Prop where
  | same (value : α) : Agree after (.ok value) (.ok (value, after))
  | neither (decoding reading : Error) : Agree after (.error decoding) (.error reading)

namespace Agree

variable {α β : Type} {middle after : Cursor} {decoded : Except Error α}
  {read : Except Error (α × Cursor)}

theorem bind {decodeNext : α → Except Error β} {readNext : α × Cursor → Except Error (β × Cursor)}
    (agree : Agree middle decoded read)
    (next : ∀ value, Agree after (decodeNext value) (readNext (value, middle))) :
    Agree after (decoded >>= decodeNext) (read >>= readNext) := by
  cases agree with
  | same value => exact next value
  | neither decoding reading => exact .neither decoding reading

theorem map (agree : Agree after decoded read) (change : α → β) :
    Agree after (decoded.map change) (read.map fun (value, c) => (change value, c)) := by
  cases agree with
  | same value => exact .same (change value)
  | neither decoding reading => exact .neither decoding reading

theorem ofOption {other : Except Error α} (agree : Agree after other read)
    (same : decoded.toOption = other.toOption) : Agree after decoded read := by
  cases agree with
  | same value =>
    cases decoded with
    | error => cases same
    | ok => cases same; exact .same value
  | neither _ reading =>
    cases decoded with
    | error decoding => exact .neither decoding reading
    | ok => cases same

end Agree

def Shape.Faithful {α : Type} (shape : Shape α) : Prop :=
  ∀ ⦃depth c spelling after⦄, readSpelling depth c = .ok (spelling, after) → spelling.Distinct →
    Agree after (shape.decode spelling.value) (shape.read depth c)

theorem agreeOnKind {α : Type} (after : Cursor) (value : Json) (expected : String) (c : Cursor) :
    Agree (α := α) after (refuseKind value expected) (readUnexpected expected c) := by
  have refused : ∃ error, readUnexpected (α := α × Cursor) expected c = .error error := by
    rw [readUnexpected]
    cases c.next? with
    | none => exact ⟨_, rfl⟩
    | some byte =>
      simp only
      split
      · exact ⟨_, rfl⟩
      · exact ⟨_, rfl⟩
      · cases readValue 0 c <;> exact ⟨_, rfl⟩
  obtain ⟨error, refused⟩ := refused
  rw [refused]
  exact .neither _ error

namespace Shape

theorem stringFaithful : string.Faithful := by
  intro depth c spelling after read _
  by_cases quote : c.skipBlanks.next? = some 0x22
  · rw [spelledString quote] at read
    obtain ⟨⟨text, last⟩, found, same⟩ := okOfMap read
    cases same
    simp only [string, if_pos quote, found]
    exact .same text
  · have unexpected := agreeOnKind (α := String) after spelling.value "a string" c.skipBlanks
    simp only [string, if_neg quote]
    cases spellingRead read with
    | scalar _ _ kind =>
      cases kind with
      | string next => exact absurd next quote
      | _ => exact unexpected
    | _ => exact unexpected

theorem boolFaithful : bool.Faithful := by
  intro depth c spelling after read _
  by_cases yes : c.skipBlanks.next? = some 0x74
  · rw [spelledTrue yes] at read
    obtain ⟨last, found, same⟩ := okOfMap read
    cases same
    simp only [bool, if_pos yes, found]
    exact .same true
  by_cases no : c.skipBlanks.next? = some 0x66
  · rw [spelledFalse no] at read
    obtain ⟨last, found, same⟩ := okOfMap read
    cases same
    simp only [bool, if_neg yes, if_pos no, found]
    exact .same false
  · have unexpected := agreeOnKind (α := Bool) after spelling.value "a boolean" c.skipBlanks
    simp only [bool, if_neg yes, if_neg no]
    cases spellingRead read with
    | scalar _ _ kind =>
      cases kind with
      | yes next => exact absurd next yes
      | no next => exact absurd next no
      | _ => exact unexpected
    | _ => exact unexpected

theorem itemsAgree {α : Type} {shape : Shape α} (faithful : shape.Faithful) {depth fuel : Nat}
    {first : Bool} {c after : Cursor} {items : List Spelling}
    (read : ItemsRead (readSpelling depth) fuel first c items after)
    (distinct : ∀ item ∈ items, item.Distinct) (done : List α) (place : done.isEmpty = first) :
    Agree after ((decodeItems shape (items.map Spelling.value)).map (done.reverse ++ ·))
      (readItems (shape.read depth) fuel done c) := by
  induction read generalizing done with
  | closing next =>
    rw [readItems, nextItemClosing _ next]
    show Agree _ _ (closeArray _ >>= _)
    rw [closeArrayClosing next, List.map_nil, decodeItems, Except.map, List.append_nil]
    exact .same done.reverse
  | @item fuel first c ahead spelling behind rest after looked value _ ih =>
    subst place
    obtain ⟨one, others⟩ := List.forall_mem_cons.1 distinct
    have decoded : (decodeItems shape ((spelling :: rest).map Spelling.value)).map
          (done.reverse ++ ·) = shape.decode spelling.value >>= fun first =>
        (decodeItems shape (rest.map Spelling.value)).map ((first :: done).reverse ++ ·) := by
      rw [List.map_cons, decodeItems]
      cases shape.decode spelling.value with
      | error error => rfl
      | ok first => cases decodeItems shape _ <;> simp [bind, Except.bind, Except.map]
    rw [readItems, looked, decoded]
    exact (faithful value one).bind fun first => ih others (first :: done) rfl

theorem listFaithful {α : Type} {shape : Shape α} (faithful : shape.Faithful) :
    shape.list.Faithful := by
  intro depth c spelling after read distinct
  have unexpected := agreeOnKind (α := List α) after spelling.value "a sequence" c.skipBlanks
  cases spellingRead read with
  | scalar list _ kind =>
    simp only [Shape.list, if_neg list]
    cases kind <;> exact unexpected
  | @array depth items _ next read =>
    cases distinct with
    | array each =>
      have agree := itemsAgree faithful read each [] rfl
      have whole : Except.map (([] : List α).reverse ++ ·) (decodeItems shape
          (items.map Spelling.value)) = decodeItems shape (items.map Spelling.value) := by
        cases decodeItems shape (items.map Spelling.value) <;> rfl
      rw [whole] at agree
      simp only [Shape.list, if_pos next, Spelling.value, Spelling.valuesMap]
      exact agree
  | object next =>
    have noList : c.skipBlanks.next? ≠ some 0x5B := by simp [next]
    simp only [Shape.list, if_neg noList]
    exact unexpected

end Shape

/-! Records. The members of an object are read in the order of its text and decoded in that of their
names, so a field must take its value whatever other fields were met before. -/

inductive ItemsAgree {α : Type} (depth : Nat) (after : Cursor) :
    Except Error (α × List Json) → Except Error (α × Cursor) → Prop where
  | same {fuel first c rest} (value : α)
      (left : ItemsRead (readSpelling depth) fuel first c rest after) :
      ItemsAgree depth after (.ok (value, rest.map Spelling.value)) (.ok (value, c))
  | neither (decoding reading : Error) : ItemsAgree depth after (.error decoding) (.error reading)

theorem ItemsAgree.map {α β : Type} {depth : Nat} {after : Cursor}
    {decoded : Except Error (α × List Json)} {read : Except Error (α × Cursor)}
    (agree : ItemsAgree depth after decoded read) (change : α → β) :
    ItemsAgree depth after (decoded >>= fun (value, items) => .ok (change value, items))
      (read >>= fun (value, c) => .ok (change value, c)) := by
  cases agree with
  | same value left => exact .same (change value) left
  | neither decoding reading => exact .neither decoding reading

namespace Fields

def decodeMember {σ α : Type} (fields : Fields σ α) (name : String) (slots : σ) (value : Json) :
    Except Error σ :=
  match fields.decodeField? name with
  | some decode => decode slots value
  | .none => .ok slots

def take? {σ α : Type} (fields : Fields σ α) (slots : Option σ) (member : String × Json) :
    Option σ :=
  slots.bind fun slots => (fields.decodeMember member.1 slots member.2).toOption

structure Faithful {σ α : Type} (fields : Fields σ α) : Prop where
  member : ∀ {depth name ahead behind spelling after} (slots : σ),
    readColon ahead = .ok behind → readSpelling depth behind = .ok (spelling, after) →
    spelling.Distinct →
    Agree after (fields.decodeMember name slots spelling.value)
      (fields.readMember depth name slots ahead)
  swap : ∀ {first second : String × Json} (slots : Option σ), first.1 ≠ second.1 →
    fields.take? (fields.take? slots first) second = fields.take? (fields.take? slots second) first
  items : ∀ {depth fuel c items after} (expected : String) (index : Nat),
    ItemsRead (readSpelling depth) fuel (index == 0) c items after →
    (∀ item ∈ items, item.Distinct) →
    ItemsAgree depth after (fields.decodeItems expected index (items.map Spelling.value))
      (fields.readItems expected index depth c)

theorem Faithful.none : none.Faithful where
  member := by
    intro depth name ahead behind spelling after slots colon read _
    rw [readMember, decodeMember]
    show Agree after (.ok slots) (readColon ahead >>= fun c => skipValue c >>= _)
    rw [colon]
    show Agree after (.ok slots) (skipValue behind >>= _)
    rw [skippedSpelling read]
    exact .same slots
  swap := fun _ _ => rfl
  items := fun _ _ read _ => .same () read

section Field

variable {α σ β : Type} {name : String} {shape : Shape α} {missing : Missing α} {rest : Fields σ β}

theorem decodeNamed (slot : Option α) (slots : σ) (value : Json) :
    (field name shape missing rest).decodeMember name (slot, slots) value =
      match slot with
      | some _ => refuse (.duplicateField name)
      | .none => (shape.decode value).map fun value => (some value, slots) := by
  cases slot <;> simp only [decodeMember, field, ↓reduceIte]

theorem decodeOther {other : String} (differs : other ≠ name) (slot : Option α) (slots : σ)
    (value : Json) : (field name shape missing rest).decodeMember other (slot, slots) value =
      (rest.decodeMember other slots value).map fun slots => (slot, slots) := by
  simp only [decodeMember, field, if_neg differs]
  cases rest.decodeField? other <;> rfl

theorem readOther {other : String} (differs : other ≠ name) (depth : Nat) (slot : Option α)
    (slots : σ) (c : Cursor) :
    (field name shape missing rest).readMember depth other (slot, slots) c =
      (rest.readMember depth other slots c).map fun (slots, c) => ((slot, slots), c) := by
  simp only [readMember, field, if_neg differs]
  cases rest.readField? other with
  | some read => rfl
  | none =>
    show (readColon c >>= _) = Except.map _ (readColon c >>= _)
    cases readColon c with
    | error error => rfl
    | ok behind =>
      show (skipValue behind >>= _) = Except.map _ (skipValue behind >>= _)
      cases skipValue behind <;> rfl

theorem takeNamed (slot : Option α) (slots : σ) (value : Json) :
    (field name shape missing rest).take? (some (slot, slots)) (name, value) =
      if slot.isSome then .none
      else (shape.decode value).toOption.map fun value => (some value, slots) := by
  simp only [take?, Option.bind_some, decodeNamed]
  cases slot with
  | some _ => rfl
  | none => cases shape.decode value <;> rfl

theorem takeOther {member : String × Json} (differs : member.1 ≠ name) (slot : Option α)
    (slots : σ) : (field name shape missing rest).take? (some (slot, slots)) member =
      (rest.take? (some slots) member).map fun slots => (slot, slots) := by
  simp only [take?, Option.bind_some, decodeOther differs]
  cases rest.decodeMember member.1 slots member.2 <;> rfl

theorem takeApart {member : String × Json} (differs : member.1 ≠ name) (value : Json)
    (slots : Option (Option α × σ)) :
    (field name shape missing rest).take?
        ((field name shape missing rest).take? slots (name, value)) member =
      (field name shape missing rest).take?
        ((field name shape missing rest).take? slots member) (name, value) := by
  cases slots with
  | none => rfl
  | some slots =>
    obtain ⟨slot, slots⟩ := slots
    rw [takeNamed, takeOther differs]
    cases slot with
    | some _ =>
      cases rest.take? (some slots) member with
      | none => rfl
      | some later => exact (takeNamed (some _) later value).symm
    | none =>
      cases decoded : shape.decode value with
      | error error =>
        cases rest.take? (some slots) member with
        | none => rfl
        | some later =>
          rw [Option.map_some, takeNamed, decoded]
          rfl
      | ok found =>
        show (field name shape missing rest).take? (some (some found, slots)) member = _
        rw [takeOther differs]
        cases rest.take? (some slots) member with
        | none => rfl
        | some later =>
          rw [Option.map_some, Option.map_some, takeNamed, decoded]
          rfl

theorem fieldSwap (swaps : rest.Faithful) {first second : String × Json}
    (slots : Option (Option α × σ)) (apart : first.1 ≠ second.1) :
    (field name shape missing rest).take?
        ((field name shape missing rest).take? slots first) second =
      (field name shape missing rest).take?
        ((field name shape missing rest).take? slots second) first := by
  by_cases here : first.1 = name
  · subst here
    exact takeApart apart.symm first.2 slots
  · by_cases there : second.1 = name
    · subst there
      exact (takeApart apart second.2 slots).symm
    · cases slots with
      | none => rfl
      | some slots =>
        obtain ⟨slot, slots⟩ := slots
        have swap := swaps.swap (some slots) apart
        rw [takeOther here, takeOther there]
        have lifted (found : Option σ) (member : String × Json) (differs : member.1 ≠ name) :
            (field name shape missing rest).take? (found.map fun slots => (slot, slots)) member =
              (rest.take? found member).map fun slots => (slot, slots) := by
          cases found with
          | none => rfl
          | some slots => exact takeOther differs slot slots
        rw [lifted _ _ there, lifted _ _ here, swap]

theorem fieldMember (faithful : shape.Faithful) (others : rest.Faithful) {depth : Nat}
    {other : String} {ahead behind after : Cursor} {spelling : Spelling}
    (slots : Option α × σ) (colon : readColon ahead = .ok behind)
    (read : readSpelling depth behind = .ok (spelling, after)) (distinct : spelling.Distinct) :
    Agree after ((field name shape missing rest).decodeMember other slots spelling.value)
      ((field name shape missing rest).readMember depth other slots ahead) := by
  obtain ⟨slot, slots⟩ := slots
  by_cases named : other = name
  · subst named
    rw [decodeNamed]
    simp only [readMember, field, ↓reduceIte]
    cases slot with
    | some _ => exact .neither _ _
    | none =>
      simp only [colon, bind, Except.bind]
      exact (faithful read distinct).map fun value => (some value, slots)
  · rw [decodeOther named, readOther named]
    exact (others.member slots colon read distinct).map fun slots => (slot, slots)

theorem fieldItems (faithful : shape.Faithful) (others : rest.Faithful) {depth fuel : Nat}
    {c after : Cursor} {items : List Spelling} (expected : String) (index : Nat)
    (read : ItemsRead (readSpelling depth) fuel (index == 0) c items after)
    (distinct : ∀ item ∈ items, item.Distinct) :
    ItemsAgree depth after
      ((field name shape missing rest).decodeItems expected index (items.map Spelling.value))
      ((field name shape missing rest).readItems expected index depth c) := by
  cases read with
  | closing next =>
    have closed : ItemsRead (readSpelling depth) 1 (index + 1 == 0) c [] c.skipBlanks.advance :=
      .closing next
    have behind := others.items expected (index + 1) closed (List.forall_mem_nil _)
    simp only [field, nextItemClosing _ next, List.map_nil]
    cases missing with
    | default value => exact behind.map fun values => (value, values)
    | refused => exact .neither _ _
    | fromObject value => exact .neither _ _
  | @item _ _ _ ahead spelling behind _ _ looked value left =>
    obtain ⟨one, distinct⟩ := List.forall_mem_cons.1 distinct
    have agree := faithful value one
    simp only [field, looked, List.map_cons]
    show ItemsAgree depth after _ (shape.read depth ahead >>= _)
    generalize shape.decode spelling.value = decoded at agree ⊢
    generalize shape.read depth ahead = read at agree ⊢
    cases agree with
    | same found =>
      exact (others.items expected (index + 1) left distinct).map fun values => (found, values)
    | neither decoding reading => exact .neither decoding reading

theorem Faithful.field (faithful : shape.Faithful) (others : rest.Faithful) :
    (field name shape missing rest).Faithful where
  member := fieldMember faithful others
  swap := fieldSwap others
  items := fieldItems faithful others

end Field

section Members

variable {σ α : Type} {fields : Fields σ α}

theorem membersAgree (faithful : fields.Faithful) {depth fuel : Nat} {first : Bool}
    {c after : Cursor} {members : List (String × Spelling)}
    (read : MembersRead (readSpelling depth) fuel first c members after)
    (distinct : ∀ member ∈ members, member.2.Distinct) (slots : σ) :
    Agree after (fields.decodeMembers slots (Spelling.memberValues members))
      (readMembers (fields.readMember depth) fuel first slots c) := by
  induction read generalizing slots with
  | closing looked =>
    rw [readMembers, looked]
    exact .same slots
  | @member _ _ _ name ahead behind spelling _ rest _ looked colon value _ ih =>
    obtain ⟨one, others⟩ := List.forall_mem_cons.1 distinct
    have decoded : fields.decodeMembers slots (Spelling.memberValues ((name, spelling) :: rest)) =
        fields.decodeMember name slots spelling.value >>= fun slots =>
          fields.decodeMembers slots (Spelling.memberValues rest) := by
      rw [Spelling.memberValues, decodeMembers, decodeMember]
      cases fields.decodeField? name <;> rfl
    rw [readMembers, looked, decoded]
    exact (faithful.member slots colon value one).bind fun slots => ih others slots

theorem decodedFold (slots : σ) (members : List (String × Json)) :
    (fields.decodeMembers slots members).toOption = members.foldl fields.take? (some slots) := by
  induction members generalizing slots with
  | nil => rfl
  | cons member rest ih =>
    have refused : rest.foldl fields.take? Option.none = Option.none :=
      List.foldl_fixed' (fun _ => rfl) rest
    obtain ⟨name, value⟩ := member
    rw [decodeMembers, List.foldl_cons, take?, Option.bind_some, decodeMember]
    cases fields.decodeField? name with
    | none => exact ih slots
    | some decode =>
      show (decode slots value >>= _).toOption = rest.foldl _ (decode slots value).toOption
      cases decode slots value with
      | error error => exact refused.symm
      | ok slots => exact ih slots

theorem decodedAnyOrder (faithful : fields.Faithful) {members sorted : List (String × Json)}
    (moved : sorted.Perm members) (distinct : (members.map Prod.fst).Nodup) (slots : σ) :
    (fields.decodeMembers slots sorted).toOption =
      (fields.decodeMembers slots members).toOption := by
  rw [decodedFold, decodedFold]
  refine moved.foldl_eq' (fun first here second there slots => ?_) (some slots)
  by_cases same : first = second
  · rw [same]
  · refine faithful.swap slots fun names => same ?_
    exact List.inj_on_of_nodup_map distinct (moved.mem_iff.1 here) (moved.mem_iff.1 there) names

end Members

end Fields

theorem Shape.recordFaithful {σ α β : Type} {fields : Fields σ α} (faithful : fields.Faithful)
    (name : String) (build : α → β) : (Shape.record name fields build).Faithful := by
  intro depth c spelling after read distinct
  have unexpected :=
    agreeOnKind (α := β) after spelling.value ("struct " ++ name) c.skipBlanks
  cases spellingRead read with
  | scalar list object kind =>
    simp only [Shape.record, if_neg list, if_neg object]
    cases kind <;> exact unexpected
  | @array depth items _ next found =>
    cases distinct with
    | array each =>
      have agree := faithful.items (fields.expectedItems ("struct " ++ name)) 0 found each
      simp only [Shape.record, if_pos next, Spelling.value, Spelling.valuesMap]
      generalize fields.decodeItems _ 0 (items.map Spelling.value) = decoded at agree ⊢
      generalize fields.readItems _ 0 depth c.skipBlanks.advance = read at agree ⊢
      cases agree with
      | neither decoding reading => exact .neither decoding reading
      | same value left =>
        cases left with
        | closing next =>
          simp only [bind, Except.bind, closeArrayClosing next, List.map_nil]
          exact .same (build value)
        | item looked =>
          obtain ⟨error, early⟩ := closeArrayEarly looked
          simp only [bind, Except.bind, early, List.map_cons]
          exact .neither _ error
  | @object depth members last next found =>
    have noList : c.skipBlanks.next? ≠ some 0x5B := by simp [next]
    cases distinct with
    | object names each =>
      -- The text has the members in an order of its own, the value in that of their names.
      have moved := NameMap.ofListPerm (Spelling.memberNames members ▸ names)
      have order := Fields.decodedAnyOrder faithful moved
        (Spelling.memberNames members ▸ names) fields.blank
      have agree := (Fields.membersAgree faithful found each fields.blank).ofOption order
      simp only [Shape.record, if_neg noList, if_pos next, readObject, Spelling.value,
        Json.ofMembers]
      refine agree.bind fun slots => ?_
      cases fields.complete slots with
      | ok values => exact .same (build values)
      | error fault => exact .neither _ _

end BrokerVault.Json
