import BrokerVault.Proofs.Credentials

/-! Setting the primary. What is left is told row by row, whatever was primary before: one row at most
is primary, and a row's time of change moves only where its place was taken or given. -/
namespace BrokerVault.Credentials

def requested? (name : String) : Option String :=
  if name = "" ∨ name = "none" then none else some name

def PrimaryIs (stored : Table Credential) (requested : Option String) : Prop :=
  ∀ row ∈ stored.rows, row.value.primary = true ↔ requested = some row.id

def Known (stored : Table Credential) (requested : Option String) : Prop :=
  ∀ label, requested = some label → label ∈ stored.rows.map (·.id)

def marked (requested : Option String) (now : Timestamp) (row : Row Credential) : Row Credential :=
  { row with value := { row.value with
      primary := requested = some row.id
      updated := if row.value.primary ∨ requested = some row.id then now else row.value.updated } }

inductive PrimarySet (world : Surroundings) (vault : Vault) (stored : Table Credential)
    (requested : Option String) : Except StoreError Unit → Vault → Prop where
  | settled (known : Known stored requested) (already : PrimaryIs stored requested) :
      PrimarySet world vault stored requested (.ok ()) vault
  | moved {changed : Table Credential} (known : Known stored requested)
      (other : ¬PrimaryIs stored requested)
      (rows : changed.rows = stored.rows.map (marked requested (world.clock vault.moment))) :
      PrimarySet world vault stored requested (.ok ())
        ⟨vault.database.withCredentials changed, vault.database :: vault.commits, vault.moment + 1⟩
  | unknown {label} (asked : requested = some label)
      (absent : label ∉ stored.rows.map (·.id)) :
      PrimarySet world vault stored requested (.error (.unknownLabel label))
        ⟨vault.database, vault.commits, vault.moment + 1⟩

variable {world : Surroundings} {vault after : Vault} {stored changed : Table Credential}
  {requested : Option String} {name : String}

theorem requestedLabel (name : String) : requested? name =
    if (labelNamed name).isEmpty then none else some (labelNamed name) := by
  rw [requested?, labelNamed]
  by_cases reserved : name = "none"
  · simp [reserved]
  · by_cases empty : name = "" <;> simp [reserved, empty]

theorem wantedRequested (name : String) :
    wanted (labelNamed name) = (requested? name).toList := by
  rw [requestedLabel, wanted]
  split <;> rfl

theorem onlyWanted (label : String) : isOnlyPrimary label (wanted label) = true := by
  rw [wanted]
  split
  · assumption
  · exact beq_self_eq_true label

theorem primaryLabelsRequested :
    primaryLabels stored = requested.toList ↔ Known stored requested ∧ PrimaryIs stored requested := by
  constructor
  · intro same
    refine ⟨fun label asked => ?_, fun row place => ?_⟩
    · have among : label ∈ primaryLabels stored := by simp [same, asked]
      obtain ⟨row, place, id⟩ := List.mem_map.1 among
      exact List.mem_map.2 ⟨row, (List.mem_filter.1 place).1, id⟩
    · rw [primaryLabelsAre stored place, same, Option.mem_toList]
  · rintro ⟨known, primaries⟩
    cases requested with
    | none =>
      have none : stored.rows.filter (·.value.primary) = [] :=
        List.filter_eq_nil_iff.2 fun row place primary => nomatch (primaries row place).1 primary
      rw [primaryLabels, none]
      rfl
    | some label =>
      obtain ⟨row, place, rfl⟩ := List.mem_map.1 (known label rfl)
      have alone : stored.rows.filter (·.value.primary) = [row] := by
        rw [← filterById place]
        refine List.filter_congr fun other among => ?_
        rw [Bool.eq_iff_iff, primaries other among, decide_eq_true_eq, Option.some.injEq, eq_comm]
      rw [primaryLabels, alone]
      rfl

theorem onlyRequested (named : "" ∉ primaryLabels stored) :
    isOnlyPrimary (labelNamed name) (primaryLabels stored) = true ↔
      Known stored (requested? name) ∧ PrimaryIs stored (requested? name) := by
  rw [← primaryLabelsRequested, ← wantedRequested]
  exact ⟨fun only => onlyPrimary only named, fun same => same ▸ onlyWanted _⟩

theorem knownRequested : Known stored (requested? name) ↔
    (labelNamed name).isEmpty = true ∨ (stored.find? (labelNamed name)).isSome := by
  rw [requestedLabel, Known]
  by_cases empty : (labelNamed name).isEmpty = true
  · simp [empty]
  · rw [if_neg empty, or_iff_right empty, Option.isSome_iff_ne_none, ne_eq, Table.absentIff, not_not]
    constructor
    · exact fun known => known _ rfl
    · rintro among _ ⟨⟩
      exact among

theorem demotedMarked (now : Timestamp) (row : Row Credential) :
    { row with value := if row.value.primary then
        { row.value with primary := false, updated := now } else row.value } =
      marked none now row := by
  obtain ⟨rowid, id, salt, canary, primary, created, updated⟩ := row
  cases primary <;> simp [marked]

theorem withPrimaryRows (stored : Table Credential) (name : String) (now : Timestamp) :
    (withPrimary stored (labelNamed name) now).rows =
      stored.rows.map (marked (requested? name) now) := by
  rw [requestedLabel, withPrimary]
  by_cases empty : (labelNamed name).isEmpty = true
  · rw [if_pos empty, if_pos empty, Table.mapValuesRows]
    exact List.map_congr_left fun row _ => demotedMarked now row
  · rw [if_neg empty, if_neg empty, Table.mapValuesRows, Table.mapValuesRows, List.map_map]
    refine List.map_congr_left fun row _ => ?_
    -- The promotion comes upon a row that is demoted already, and writes the same time again.
    rw [Function.comp_apply, demotedMarked]
    by_cases here : row.id = labelNamed name
    · simp [marked, here]
    · simp [marked, here, Ne.symm here]

theorem markedPrimary {now : Timestamp}
    (rows : changed.rows = stored.rows.map (marked requested now)) : PrimaryIs changed requested := by
  intro row place
  rw [rows] at place
  obtain ⟨row, _, rfl⟩ := List.mem_map.1 place
  exact decide_eq_true_iff

theorem PrimarySet.primary {result : Except StoreError Unit}
    (set : PrimarySet world vault stored requested result after)
    (found : vault.database.credentials = some stored) (ok : result = .ok ()) :
    ∃ left, after.database.credentials = some left ∧ PrimaryIs left requested := by
  cases set with
  | settled known already => exact ⟨stored, found, already⟩
  | moved known other rows => exact ⟨_, rfl, markedPrimary rows⟩
  | unknown asked absent => cases ok

theorem primarySet (found : vault.database.credentials = some stored)
    (named : ∀ row ∈ stored.rows, row.id ≠ "") (world : Surroundings) (name : String) :
    PrimarySet world vault stored (requested? name) (updatePrimary name world vault).1
      (updatePrimary name world vault).2 := by
  -- A lone primary labelled with the empty name would pass for no primary.
  have unnamed : "" ∉ primaryLabels stored := fun among => by
    obtain ⟨row, place, id⟩ := List.mem_map.1 among
    exact named row (List.mem_filter.1 place).1 id
  rw [updatePrimaryRun world name found]
  by_cases only : isOnlyPrimary (labelNamed name) (primaryLabels stored) = true
  · rw [if_pos only]
    obtain ⟨known, already⟩ := (onlyRequested unnamed).1 only
    exact .settled known already
  · rw [if_neg only]
    by_cases known : Known stored (requested? name)
    · rw [if_pos (knownRequested.1 known)]
      refine .moved known (fun already => only ?_) (withPrimaryRows stored name _)
      exact (onlyRequested unnamed).2 ⟨known, already⟩
    · rw [if_neg fun other => known (knownRequested.2 other)]
      have filled : ¬(labelNamed name).isEmpty = true := fun empty =>
        known (knownRequested.2 (.inl empty))
      have asked : requested? name = some (labelNamed name) := by
        rw [requestedLabel, if_neg filled]
      refine .unknown asked fun among => known fun label same => ?_
      cases asked.symm.trans same
      exact among

/-- Setting the primary makes the requested label the only one, or is refused and changes nothing;
what is settled already is not written again. -/
theorem primaryIsSet (found : vault.database.credentials = some stored)
    (named : ∀ row ∈ stored.rows, row.id ≠ "") (world : Surroundings) (name : String) :
    ∃ result after, updatePrimary name world vault = (result, after) ∧
      PrimarySet world vault stored (requested? name) result after ∧
      (result = .ok () → ∃ left, after.database.credentials = some left ∧
        PrimaryIs left (requested? name)) := by
  have set := primarySet found named world name
  exact ⟨_, _, rfl, set, set.primary found⟩

end BrokerVault.Credentials

/-! A store with two primaries at once, and the primary set to a third label. -/
namespace BrokerVault.TwoPrimaries

open Credentials

def earlier : Timestamp := ⟨1, 0⟩

def later : Timestamp := ⟨2, 0⟩

def credential (primary : Bool) : Credential := ⟨[], [], primary, earlier, earlier⟩

def stored : Table Credential where
  rows := [⟨1, "first", credential true⟩, ⟨2, "second", credential true⟩,
    ⟨3, "third", credential false⟩, ⟨7, "other", credential false⟩]
  ascending := by simp
  distinct := by simp

def world : Surroundings := ⟨fun _ _ => none, fun _ => later, fun _ => false⟩

def vault : Vault := .ofDatabase (Database.empty.withCredentials stored)

theorem twoPrimariesMoved : ∃ after left, updatePrimary "third" world vault = (.ok (), after) ∧
    after.database.credentials = some left ∧ PrimaryIs left (some "third") ∧
    left.rows.map (fun row => (row.id, row.value.primary, row.value.updated)) =
      [("first", false, later), ("second", false, later), ("third", true, later),
        ("other", false, earlier)] := by
  have found : vault.database.credentials = some stored := rfl
  have named : ∀ row ∈ stored.rows, row.id ≠ "" := by decide
  obtain ⟨result, after, ran, set, primary⟩ := primaryIsSet found named world "third"
  have requested : requested? "third" = some "third" := by decide
  rw [requested] at set primary
  cases set with
  | settled known already =>
    have first := (already ⟨1, "first", credential true⟩ (by decide)).1 rfl
    exact absurd first (by decide)
  | unknown asked absent =>
    cases asked
    exact absurd (by decide) absent
  | @moved changed known other rows =>
    obtain ⟨_, ⟨⟩, primaries⟩ := primary rfl
    refine ⟨_, changed, ran, rfl, primaries, ?_⟩
    rw [rows]
    decide

end BrokerVault.TwoPrimaries
