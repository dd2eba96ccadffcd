import BrokerVault.NameMap
import Mathlib.Data.List.Nodup

/-! Maps that keep their names in order, one for each. Building one from entries with different names
only sorts the entries. -/
namespace BrokerVault.NameMap

variable {α : Type}

def names (map : NameMap α) : List String := map.map Prod.fst

def Ascending (map : NameMap α) : Prop := map.names.Pairwise (· < ·)

instance (map : NameMap α) : Decidable map.Ascending :=
  inferInstanceAs (Decidable (List.Pairwise _ _))

theorem getCons (name : String) (value : α) (rest : NameMap α) (other : String) :
    get? ((name, value) :: rest) other = if other = name then some value else rest.get? other := by
  by_cases same : other = name
  · simp [get?, same]
  · simp [get?, List.lookup_cons, beq_false_of_ne same, same]

theorem getInsert (name : String) (value : α) (map : NameMap α) (other : String) :
    (map.insert name value).get? other = if other = name then some value else map.get? other := by
  induction map with
  | nil => exact getCons name value [] other
  | cons entry rest ih =>
    obtain ⟨first, old⟩ := entry
    rw [insert]
    split
    · exact getCons _ _ _ _
    · split
      · rename_i same
        subst same
        simp only [getCons]
        split <;> rfl
      · rename_i differs
        simp only [getCons, ih]
        by_cases here : other = first
        · have elsewhere : other ≠ name := here ▸ Ne.symm differs
          rw [if_pos here, if_neg elsewhere, if_pos here]
        · simp [here]

theorem memInsert {name : String} {value : α} {map : NameMap α} {other : String} :
    other ∈ (map.insert name value).names ↔ other = name ∨ other ∈ map.names := by
  induction map with
  | nil => simp [insert, names]
  | cons entry rest ih =>
    obtain ⟨first, old⟩ := entry
    rw [insert]
    split
    · simp [names]
    · split
      · rename_i same
        simp [names, same]
      · simp only [names, List.map_cons, List.mem_cons] at ih ⊢
        rw [ih]
        exact or_left_comm

theorem insertAscending (name : String) (value : α) {map : NameMap α} (sorted : map.Ascending) :
    (map.insert name value).Ascending := by
  induction map with
  | nil => simp [insert, Ascending, names]
  | cons entry rest ih =>
    obtain ⟨first, old⟩ := entry
    obtain ⟨behind, following⟩ := List.pairwise_cons.1 sorted
    rw [insert]
    split
    · rename_i less
      refine List.pairwise_cons.2 ⟨fun other place => ?_, sorted⟩
      rcases List.mem_cons.1 place with rfl | later
      · exact less
      · exact String.lt_trans less (behind other later)
    · rename_i notLess
      split
      · rename_i same
        subst same
        exact sorted
      · rename_i differs
        refine List.pairwise_cons.2 ⟨fun other place => ?_, ih following⟩
        rcases memInsert.1 place with rfl | later
        · by_contra notMore
          exact differs (String.le_antisymm (String.not_lt.1 notMore) (String.not_lt.1 notLess))
        · exact behind other later

theorem Ascending.distinct {map : NameMap α} (sorted : map.Ascending) : map.names.Nodup := by
  refine List.Pairwise.imp ?_ sorted
  intro first second less same
  subst same
  exact String.lt_irrefl first less

theorem memNames {map : NameMap α} {name : String} : name ∈ map.names ↔ (map.get? name).isSome := by
  induction map with
  | nil => simp [names, get?]
  | cons entry rest ih =>
    rw [names, List.map_cons, List.mem_cons, getCons]
    by_cases same : name = entry.1
    · simp [same]
    · simp only [same, false_or, if_false]
      exact ih

theorem insertPerm {name : String} (value : α) {map : NameMap α} (new : name ∉ map.names) :
    (map.insert name value).Perm ((name, value) :: map) := by
  induction map with
  | nil => exact .refl _
  | cons entry rest ih =>
    obtain ⟨first, old⟩ := entry
    rw [names, List.map_cons, List.mem_cons, not_or] at new
    rw [insert, if_neg new.1]
    split
    · exact .refl _
    · exact ((ih new.2).cons (first, old)).trans (.swap _ _ _)

theorem ofListPerm {entries : List (String × α)} (distinct : (entries.map Prod.fst).Nodup) :
    (ofList entries).Perm entries := by
  have onto : ∀ (entries : List (String × α)) (map : NameMap α), (names (map ++ entries)).Nodup →
      (entries.foldl (fun map entry => map.insert entry.1 entry.2) map).Perm (map ++ entries) := by
    intro entries
    induction entries with
    | nil => exact fun map _ => .of_eq (List.append_nil map).symm
    | cons entry rest ih =>
      intro map apart
      obtain ⟨name, value⟩ := entry
      have middle : ((name, value) :: (map ++ rest)).Perm (map ++ (name, value) :: rest) :=
        List.perm_middle.symm
      have fresh := (middle.map Prod.fst).nodup_iff.2 apart
      have new : name ∉ map.names := fun place =>
        (List.nodup_cons.1 fresh).1 (List.mem_map.2 (by
          obtain ⟨other, among, same⟩ := List.mem_map.1 place
          exact ⟨other, List.mem_append_left _ among, same⟩))
      have inserted := (insertPerm value new).append_right rest
      exact (ih _ ((inserted.map Prod.fst).nodup_iff.2 fresh)).trans (inserted.trans middle)
  exact onto entries [] distinct

end BrokerVault.NameMap
