/-! Tables: rows in ascending order of their numbers, with no identifier twice. A new row is
numbered one above the last. Changing values moves no row. -/
namespace BrokerVault

structure Row (α : Type) where
  rowid : Int
  id : String
  value : α
  deriving DecidableEq, Repr

structure Table (α : Type) where
  rows : List (Row α)
  ascending : rows.Pairwise fun above below => above.rowid < below.rowid
  distinct : rows.Pairwise fun above below => above.id ≠ below.id

namespace Table

variable {α : Type}

def empty : Table α := ⟨[], .nil, .nil⟩

instance : Inhabited (Table α) := ⟨empty⟩

def find? (table : Table α) (id : String) : Option (Row α) :=
  table.rows.find? fun row => row.id == id

def after (table : Table α) (cursor : Int) : List (Row α) :=
  table.rows.filter fun row => cursor < row.rowid

def batch (table : Table α) (cursor : Int) (limit : Nat) : List (Row α) :=
  (table.after cursor).take limit

def nextRowid (table : Table α) : Int :=
  match table.rows.getLast? with
  | some last => last.rowid + 1
  | none => 1

def keep (table : Table α) (wanted : Row α → Bool) : Table α :=
  ⟨table.rows.filter wanted, table.ascending.filter wanted, table.distinct.filter wanted⟩

def mapValues (table : Table α) (change : Row α → α) : Table α where
  rows := table.rows.map fun row => { row with value := change row }
  ascending := by simpa [List.pairwise_map] using table.ascending
  distinct := by simpa [List.pairwise_map] using table.distinct

def update (table : Table α) (id : String) (value : α) : Table α :=
  table.mapValues fun row => if row.id = id then value else row.value

def below (table : Table α) (rowid : Int) : List (Row α) :=
  table.rows.filter fun row => row.rowid < rowid

theorem insertAscending (table : Table α) (row : Row α) :
    (table.below row.rowid ++ row :: table.after row.rowid).Pairwise
      fun above below => above.rowid < below.rowid := by
  have first := table.ascending.filter fun other => other.rowid < row.rowid
  have last := table.ascending.filter fun other => row.rowid < other.rowid
  refine List.pairwise_append.2 ⟨first, List.pairwise_cons.2 ⟨?_, last⟩, ?_⟩
  · intro other found
    simpa [after] using (List.mem_filter.1 found).2
  · intro above found below place
    have low : above.rowid < row.rowid := by simpa [Table.below] using (List.mem_filter.1 found).2
    rcases List.mem_cons.1 place with rfl | place
    · exact low
    · have high : row.rowid < below.rowid := by simpa [after] using (List.mem_filter.1 place).2
      omega

theorem idsDiffer {rows : List (Row α)}
    (ascending : rows.Pairwise fun above below => above.rowid < below.rowid)
    (distinct : rows.Pairwise fun above below => above.id ≠ below.id) {first second : Row α}
    (one : first ∈ rows) (two : second ∈ rows) (order : first.rowid < second.rowid) :
    first.id ≠ second.id := by
  induction rows with
  | nil => simp at one
  | cons head rest ih =>
    obtain ⟨low, ascending⟩ := List.pairwise_cons.1 ascending
    obtain ⟨other, distinct⟩ := List.pairwise_cons.1 distinct
    rcases List.mem_cons.1 one with atHead | inRest
    · rcases List.mem_cons.1 two with same | inRest
      · subst atHead same
        omega
      · exact atHead ▸ other second inRest
    · rcases List.mem_cons.1 two with atHead | alsoInRest
      · have := low first inRest
        subst atHead
        omega
      · exact ih ascending distinct inRest alsoInRest

theorem insertDistinct (table : Table α) (row : Row α) (new : table.find? row.id = none) :
    (table.below row.rowid ++ row :: table.after row.rowid).Pairwise
      fun above below => above.id ≠ below.id := by
  have other : ∀ found ∈ table.rows, found.id ≠ row.id := by
    intro found place same
    have absent := List.find?_eq_none.1 new found place
    simp [same] at absent
  have first := table.distinct.filter fun other => other.rowid < row.rowid
  have last := table.distinct.filter fun other => row.rowid < other.rowid
  refine List.pairwise_append.2 ⟨first, List.pairwise_cons.2 ⟨?_, last⟩, ?_⟩
  · intro found place
    exact (other found (List.mem_filter.1 place).1).symm
  · intro above found below place
    rcases List.mem_cons.1 place with rfl | place
    · exact other above (List.mem_filter.1 found).1
    · have low : above.rowid < row.rowid := by
        simpa [Table.below] using (List.mem_filter.1 found).2
      have high : row.rowid < below.rowid := by simpa [after] using (List.mem_filter.1 place).2
      exact idsDiffer table.ascending table.distinct (List.mem_filter.1 found).1
        (List.mem_filter.1 place).1 (by omega)

def insert? (table : Table α) (rowid : Int) (id : String) (value : α) : Option (Table α) :=
  if new : table.find? id = none then
    if table.rows.any fun row => row.rowid == rowid then none
    else some
      { rows := table.below rowid ++ ⟨rowid, id, value⟩ :: table.after rowid
        ascending := table.insertAscending ⟨rowid, id, value⟩
        distinct := table.insertDistinct ⟨rowid, id, value⟩ new }
  else none

def append? (table : Table α) (id : String) (value : α) : Option (Table α) :=
  table.insert? table.nextRowid id value

def upsert (table : Table α) (id : String) (value : α) : Table α :=
  (table.append? id value).getD (table.update id value)

end Table
end BrokerVault
