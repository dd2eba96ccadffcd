import BrokerVault.Database.Basic
import Mathlib.Data.List.Forall2

/-! Tables as lists of rows: what a cursor splits them into, and what the operations do to a row in
its place. -/
namespace BrokerVault

theorem pairedRight {α β : Type} {relation : α → β → Prop} {left : List α} {right : List β}
    (paired : List.Forall₂ relation left right) {second : β} (place : second ∈ right) :
    ∃ first ∈ left, relation first second := by
  induction paired with
  | nil => simp at place
  | cons head _ ih =>
    rcases List.mem_cons.1 place with rfl | place
    · exact ⟨_, List.mem_cons_self, head⟩
    · obtain ⟨first, found, holds⟩ := ih place
      exact ⟨first, List.mem_cons_of_mem _ found, holds⟩

theorem pairedLeft {α β : Type} {relation : α → β → Prop} {left : List α} {right : List β}
    (paired : List.Forall₂ relation left right) {first : α} (place : first ∈ left) :
    ∃ second ∈ right, relation first second := by
  have turned : List.Forall₂ (fun second first => relation first second) right left := paired.flip
  exact pairedRight turned place

theorem pairedWithin {α β : Type} {relation : α → β → Prop} {left : List α} {right : List β}
    (paired : List.Forall₂ relation left right) :
    List.Forall₂ (fun one two => one ∈ left ∧ relation one two) left right := by
  induction paired with
  | nil => exact .nil
  | cons head _ ih =>
    refine .cons ⟨List.mem_cons_self, head⟩ (ih.imp ?_)
    exact fun _ _ both => ⟨List.mem_cons_of_mem _ both.1, both.2⟩

theorem pairedBoth {α β γ : Type} {relation : α → β → Prop} {other : α → γ → Prop} {list : List α}
    {left : List β} {right : List γ} (first : List.Forall₂ relation list left)
    (second : List.Forall₂ other list right) :
    List.Forall₂ (fun one two => ∃ item ∈ list, relation item one ∧ other item two) left right := by
  induction first generalizing right with
  | nil =>
    cases second
    exact .nil
  | cons head _ ih =>
    cases second with
    | cons otherHead tail =>
      refine .cons ⟨_, List.mem_cons_self, head, otherHead⟩ ((ih tail).imp ?_)
      rintro one two ⟨item, place, both⟩
      exact ⟨item, List.mem_cons_of_mem _ place, both⟩

theorem pairedThrough {α β γ : Type} {relation : α → β → Prop} {other : β → γ → Prop}
    {left : List α} {middle : List β} {right : List γ} (first : List.Forall₂ relation left middle)
    (second : List.Forall₂ other middle right) :
    List.Forall₂ (fun one two => one ∈ left ∧ ∃ item, relation one item ∧ other item two) left
      right := by
  have turned : List.Forall₂ (fun item one => one ∈ left ∧ relation one item) middle left :=
    (pairedWithin first).flip
  refine (pairedBoth turned second).imp ?_
  rintro one two ⟨item, _, ⟨place, before⟩, after⟩
  exact ⟨place, item, before, after⟩

theorem ProtectedTable.listed (name : ProtectedTable) : name ∈ ProtectedTable.all := by
  cases name <;> decide

namespace Table

variable {α : Type} {table : Table α} {cursor : Int} {low todo : List (Row α)}

theorem sameRows {other : Table α} (rows : other.rows = table.rows) : other = table := by
  cases table
  cases other
  cases rows
  rfl

theorem mapValuesRows (table : Table α) (change : Row α → α) :
    (table.mapValues change).rows = table.rows.map fun row => { row with value := change row } := rfl

theorem memAfter {row : Row α} : row ∈ table.after cursor ↔ row ∈ table.rows ∧ cursor < row.rowid := by
  simp only [Table.after, List.mem_filter, decide_eq_true_eq]

structure SplitAt (table : Table α) (cursor : Int) (low todo : List (Row α)) : Prop where
  rows : table.rows = low ++ todo
  passed : ∀ row ∈ low, row.rowid ≤ cursor
  waiting : ∀ row ∈ todo, cursor < row.rowid

theorem SplitAt.after (split : table.SplitAt cursor low todo) : table.after cursor = todo := by
  rw [Table.after, split.rows, List.filter_append]
  have none : low.filter (fun row => cursor < row.rowid) = [] := by
    refine List.filter_eq_nil_iff.2 fun row found => ?_
    have := split.passed row found
    simp only [decide_eq_true_eq]
    omega
  rw [none, List.nil_append]
  exact List.filter_eq_self.2 fun row found => by simpa using split.waiting row found

theorem splitAt (table : Table α) (cursor : Int) :
    table.SplitAt cursor (table.below (cursor + 1)) (table.after cursor) := by
  refine ⟨?_, ?_, ?_⟩
  · have ascending := table.ascending
    simp only [below, after]
    generalize table.rows = rows at ascending
    induction rows with
    | nil => rfl
    | cons row rest ih =>
      obtain ⟨first, ascending⟩ := List.pairwise_cons.1 ascending
      by_cases behind : cursor < row.rowid
      · have all : ∀ other ∈ rest, cursor < other.rowid := fun other found =>
          Int.lt_trans behind (first other found)
        have noneBelow : (row :: rest).filter (fun row => row.rowid < cursor + 1) = [] := by
          refine List.filter_eq_nil_iff.2 fun other found => ?_
          have := (List.mem_cons.1 found).elim (fun same => same ▸ behind) (all other)
          simp only [decide_eq_true_eq]
          omega
        have allAfter : (row :: rest).filter (fun row => cursor < row.rowid) = row :: rest := by
          refine List.filter_eq_self.2 fun other found => ?_
          simpa using (List.mem_cons.1 found).elim (fun same => same ▸ behind) (all other)
        rw [noneBelow, allAfter, List.nil_append]
      · have before : row.rowid < cursor + 1 := by omega
        simp only [List.filter_cons, before, behind, decide_true, decide_false, ↓reduceIte,
          List.cons_append, Bool.false_eq_true]
        rw [← ih ascending]
  · intro row found
    have low : row.rowid < cursor + 1 := by simpa [below] using (List.mem_filter.1 found).2
    omega
  · intro row found
    simpa [after] using (List.mem_filter.1 found).2

theorem SplitAt.advance {group rest : List (Row α)} {last : Row α}
    (split : table.SplitAt cursor low (group ++ rest)) (found : group.getLast? = some last) :
    table.SplitAt last.rowid (low ++ group) rest := by
  obtain ⟨before, rfl⟩ := List.getLast?_eq_some_iff.1 found
  have ascending := table.ascending
  rw [split.rows] at ascending
  obtain ⟨_, ascending, _⟩ := List.pairwise_append.1 ascending
  obtain ⟨within, _, across⟩ := List.pairwise_append.1 ascending
  obtain ⟨_, _, toLast⟩ := List.pairwise_append.1 within
  have behindLast := split.waiting last (by simp)
  refine ⟨by simp [split.rows], ?_, fun row place => across last (by simp) row place⟩
  intro row place
  rcases List.mem_append.1 place with old | new
  · exact Int.le_trans (split.passed row old) (Int.le_of_lt behindLast)
  · rcases List.mem_append.1 new with earlier | final
    · exact Int.le_of_lt (toLast row earlier last (by simp))
    · cases List.mem_singleton.1 final
      exact Int.le_refl _

theorem SplitAt.same {β : Type} {other : Table β} {front back : List (Row β)}
    (split : table.SplitAt cursor low todo) (rows : other.rows = front ++ back)
    (passed : List.Forall₂ (fun row changed => changed.rowid = row.rowid) low front)
    (waiting : List.Forall₂ (fun row changed => changed.rowid = row.rowid) todo back) :
    other.SplitAt cursor front back := by
  refine ⟨rows, ?_, ?_⟩
  · intro changed place
    obtain ⟨row, found, same⟩ := pairedRight passed place
    exact same ▸ split.passed row found
  · intro changed place
    obtain ⟨row, found, same⟩ := pairedRight waiting place
    exact same ▸ split.waiting row found

theorem othersDiffer {front back : List (Row α)} {row : Row α}
    (layout : table.rows = front ++ row :: back) :
    (∀ other ∈ front, other.id ≠ row.id) ∧ ∀ other ∈ back, other.id ≠ row.id := by
  have distinct := table.distinct
  rw [layout] at distinct
  obtain ⟨_, tail, across⟩ := List.pairwise_append.1 distinct
  refine ⟨fun other found => across other found row List.mem_cons_self, fun other found => ?_⟩
  exact ((List.pairwise_cons.1 tail).1 other found).symm

theorem updateRows {front back : List (Row α)} {row : Row α}
    (layout : table.rows = front ++ row :: back) (value : α) :
    (table.update row.id value).rows = front ++ { row with value } :: back := by
  obtain ⟨ahead, behind⟩ := othersDiffer layout
  have same : ∀ rows : List (Row α), (∀ other ∈ rows, other.id ≠ row.id) →
      rows.map (fun other => { other with
        value := if other.id = row.id then value else other.value }) = rows := by
    intro rows differ
    calc rows.map (fun other => { other with
            value := if other.id = row.id then value else other.value })
        _ = rows.map id := List.map_congr_left fun other found => by simp [differ other found]
        _ = rows := List.map_id rows
  simp only [update, mapValues, layout, List.map_append, List.map_cons, same front ahead,
    same back behind, ↓reduceIte]

theorem findSome {id : String} {row : Row α} (found : table.find? id = some row) :
    row ∈ table.rows ∧ row.id = id :=
  ⟨List.mem_of_find?_eq_some found, by simpa using List.find?_some found⟩

theorem findOfMem {row : Row α} (place : row ∈ table.rows) : table.find? row.id = some row := by
  obtain ⟨front, back, layout⟩ := List.append_of_mem place
  have ahead := (othersDiffer layout).1
  rw [find?, layout, List.find?_append, List.find?_eq_none.2 (by simpa using ahead)]
  simp

theorem findNone {id : String} (absent : table.find? id = none) : ∀ row ∈ table.rows, row.id ≠ id := by
  intro row place same
  rw [← same, findOfMem place] at absent
  cases absent

theorem absentIff {id : String} : table.find? id = none ↔ id ∉ table.rows.map (·.id) := by
  constructor
  · intro absent place
    obtain ⟨row, found, same⟩ := List.mem_map.1 place
    exact findNone absent row found same
  · intro absent
    refine List.find?_eq_none.2 fun row place same => absent ?_
    exact List.mem_map.2 ⟨row, place, by simpa using same⟩

theorem sameRow {one other : Row α} (first : one ∈ table.rows) (second : other ∈ table.rows)
    (id : one.id = other.id) : one = other := by
  have found := findOfMem second
  rw [← id, findOfMem first] at found
  exact Option.some.inj found

theorem belowNext (table : Table α) : ∀ row ∈ table.rows, row.rowid < table.nextRowid := by
  intro row place
  cases last : table.rows.getLast? with
  | none => simp [List.getLast?_eq_none_iff.1 last] at place
  | some final =>
    obtain ⟨front, layout⟩ := List.getLast?_eq_some_iff.1 last
    have ascending := table.ascending
    simp only [nextRowid, last]
    rw [layout] at place ascending
    rcases List.mem_append.1 place with earlier | same
    · have := (List.pairwise_append.1 ascending).2.2 row earlier final (by simp)
      omega
    · rw [List.mem_singleton.1 same]
      omega

theorem nextPositive (table : Table α) (numbered : ∀ row ∈ table.rows, 0 < row.rowid) :
    0 < table.nextRowid := by
  rw [nextRowid]
  cases last : table.rows.getLast? with
  | none => simp
  | some final =>
    have := numbered final (List.mem_of_getLast? last)
    simp only
    omega

theorem appendRows {id : String} (new : table.find? id = none) (value : α) :
    ∃ longer, table.append? id value = some longer ∧
      longer.rows = table.rows ++ [⟨table.nextRowid, id, value⟩] := by
  have below := table.belowNext
  have free : (table.rows.any fun row => row.rowid == table.nextRowid) = false := by
    refine List.any_eq_false.2 fun row place => ?_
    have := below row place
    simp only [beq_iff_eq]
    omega
  have allBelow : table.below table.nextRowid = table.rows :=
    List.filter_eq_self.2 fun row place => by simpa using below row place
  have noneAfter : table.after table.nextRowid = [] := by
    refine List.filter_eq_nil_iff.2 fun row place => ?_
    have := below row place
    simp only [decide_eq_true_eq]
    omega
  simp only [append?, insert?, new, ↓reduceDIte, free, Bool.false_eq_true, ↓reduceIte,
    Option.some.injEq, exists_eq_left', allBelow, noneAfter]

theorem appendTaken {id : String} {row : Row α} (taken : table.find? id = some row) (value : α) :
    table.append? id value = none := by
  simp [append?, insert?, taken]

theorem upsertRows (table : Table α) (id : String) (value : α) :
    (table.find? id = none ∧
      (table.upsert id value).rows = table.rows ++ [⟨table.nextRowid, id, value⟩]) ∨
    ∃ front row back, row.id = id ∧ table.rows = front ++ row :: back ∧
      (table.upsert id value).rows = front ++ { row with value } :: back := by
  cases found : table.find? id with
  | none =>
    obtain ⟨longer, appended, rows⟩ := appendRows found value
    exact .inl ⟨rfl, by rw [upsert, appended, Option.getD_some, rows]⟩
  | some row =>
    obtain ⟨place, rfl⟩ := findSome found
    obtain ⟨front, back, layout⟩ := List.append_of_mem place
    refine .inr ⟨front, row, back, rfl, layout, ?_⟩
    rw [upsert, appendTaken found, Option.getD_none, updateRows layout]

theorem memUpsert {id : String} {value : α} {row : Row α}
    (place : row ∈ (table.upsert id value).rows) :
    row.id = id ∧ row.value = value ∨ row.id ≠ id ∧ row ∈ table.rows := by
  rcases table.upsertRows id value with ⟨absent, rows⟩ | ⟨front, old, back, rfl, layout, rows⟩
  · rw [rows] at place
    rcases List.mem_append.1 place with found | made
    · exact .inr ⟨findNone absent row found, found⟩
    · rw [List.mem_singleton.1 made]
      exact .inl ⟨rfl, rfl⟩
  · obtain ⟨ahead, behind⟩ := othersDiffer layout
    rw [rows] at place
    rw [layout]
    rcases List.mem_append.1 place with before | place
    · exact .inr ⟨ahead row before, List.mem_append_left _ before⟩
    · rcases List.mem_cons.1 place with rfl | after
      · exact .inl ⟨rfl, rfl⟩
      · exact .inr ⟨behind row after, by simp [after]⟩

end Table

def Row.ReadsAs (name : ProtectedTable) (row : Row Cell) (read : Row (Option ColumnValue)) : Prop :=
  read.rowid = row.rowid ∧ read.id = row.id ∧ row.value.read name = .ok read.value

theorem rowRead {name : ProtectedTable} {row : Row Cell} {read : Row (Option ColumnValue)} :
    row.read name = .ok read ↔ row.ReadsAs name read := by
  rw [Row.read, Row.ReadsAs]
  cases found : row.value.read name with
  | error fault => simp [Except.map]
  | ok value =>
    simp only [Except.map, Except.ok.injEq]
    constructor
    · rintro rfl
      exact ⟨rfl, rfl, rfl⟩
    · rintro ⟨rowid, id, same⟩
      cases read
      simp_all

variable {name : ProtectedTable}

theorem readRowsCons {row : Row Cell} {rest : List (Row Cell)} {read : List (Row (Option ColumnValue))}
    (ran : readRows name (row :: rest) = .ok read) :
    ∃ first following, read = first :: following ∧ row.ReadsAs name first ∧
      readRows name rest = .ok following := by
  simp only [readRows, bind, Except.bind] at ran
  cases first : row.read name with
  | error fault => simp [first] at ran
  | ok found =>
    cases following : readRows name rest with
    | error fault => simp [first, following] at ran
    | ok others =>
      simp only [first, following, Except.ok.injEq] at ran
      exact ⟨found, others, ran.symm, rowRead.1 first, rfl⟩

theorem readRowsPaired {rows : List (Row Cell)} {read : List (Row (Option ColumnValue))}
    (ran : readRows name rows = .ok read) : List.Forall₂ (Row.ReadsAs name) rows read := by
  induction rows generalizing read with
  | nil =>
    cases ran
    exact .nil
  | cons row rest ih =>
    obtain ⟨first, following, rfl, head, tail⟩ := readRowsCons ran
    exact .cons head (ih tail)

theorem readRowsEach {rows : List (Row Cell)} {read : List (Row (Option ColumnValue))}
    (ran : readRows name rows = .ok read) : ∀ row ∈ rows, ∃ value, row.value.read name = .ok value := by
  intro row place
  obtain ⟨first, _, _, _, held⟩ := pairedLeft (readRowsPaired ran) place
  exact ⟨first.value, held⟩

theorem readRowsConsOk {row : Row Cell} {rest : List (Row Cell)} {first : Row (Option ColumnValue)}
    {following : List (Row (Option ColumnValue))} (head : row.ReadsAs name first)
    (tail : readRows name rest = .ok following) :
    readRows name (row :: rest) = .ok (first :: following) := by
  simp only [readRows, rowRead.2 head, tail, bind, Except.bind]

theorem readRowsAll {rows : List (Row Cell)}
    (each : ∀ row ∈ rows, ∃ value, row.value.read name = .ok value) :
    ∃ read, readRows name rows = .ok read := by
  induction rows with
  | nil => exact ⟨[], rfl⟩
  | cons row rest ih =>
    obtain ⟨⟨value, held⟩, each⟩ := List.forall_mem_cons.1 each
    obtain ⟨following, tail⟩ := ih each
    have head : row.ReadsAs name ⟨row.rowid, row.id, value⟩ := ⟨rfl, rfl, held⟩
    exact ⟨_, readRowsConsOk head tail⟩

theorem readRowsAppend (rows more : List (Row Cell)) :
    readRows name (rows ++ more) = (do
      let read ← readRows name rows
      let following ← readRows name more
      .ok (read ++ following)) := by
  induction rows with
  | nil => cases found : readRows name more <;> simp [readRows, bind, Except.bind, found]
  | cons row rest ih =>
    simp only [List.cons_append, readRows, ih, bind, Except.bind]
    cases row.read name <;> cases readRows name rest <;> cases readRows name more <;> rfl

theorem readRowsFault {rows : List (Row Cell)} {fault : DatabaseFault}
    (ran : readRows name rows = .error fault) :
    ∃ earlier row later, rows = earlier ++ row :: later ∧
      (∃ read, readRows name earlier = .ok read) ∧ row.value.read name = .error fault := by
  induction rows with
  | nil => cases ran
  | cons row rest ih =>
    cases found : row.value.read name with
    | error other =>
      have same : other = fault := by
        simpa [readRows, Row.read, found, Except.map, bind, Except.bind] using ran
      exact ⟨[], row, rest, rfl, ⟨[], rfl⟩, same ▸ found⟩
    | ok value =>
      have head : row.ReadsAs name ⟨row.rowid, row.id, value⟩ := ⟨rfl, rfl, found⟩
      simp only [readRows, rowRead.2 head, bind, Except.bind] at ran
      cases tail : readRows name rest with
      | ok following => simp [tail] at ran
      | error other =>
        simp only [tail, Except.error.injEq] at ran
        obtain ⟨earlier, bad, later, rfl, ⟨read, whole⟩, faulty⟩ := ih (ran ▸ tail)
        exact ⟨row :: earlier, bad, later, rfl, ⟨_, readRowsConsOk head whole⟩, faulty⟩

theorem readRowsLast {rows : List (Row Cell)} {read : List (Row (Option ColumnValue))}
    (ran : readRows name rows = .ok read) :
    read.length = rows.length ∧ read.getLast?.map (·.rowid) = rows.getLast?.map (·.rowid) := by
  induction rows generalizing read with
  | nil =>
    cases ran
    exact ⟨rfl, rfl⟩
  | cons row rest ih =>
    obtain ⟨first, following, rfl, head, tail⟩ := readRowsCons ran
    obtain ⟨length, last⟩ := ih tail
    refine ⟨by simp [length], ?_⟩
    cases rest with
    | nil =>
      cases tail
      simp [head.1]
    | cons next others =>
      obtain ⟨second, behind, rfl, _⟩ := readRowsCons tail
      simpa [List.getLast?_cons_cons] using last

end BrokerVault
