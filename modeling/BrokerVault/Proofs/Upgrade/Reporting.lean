import BrokerVault.Proofs.NameMap
import BrokerVault.Proofs.Texts
import BrokerVault.Upgrade.Report
import Mathlib.Data.List.Dedup
import Mathlib.Data.List.Induction

/-! What a report shows of the events that it was told. Its tally follows them one by one. The columns
of its table close at one place: they are as wide as the longest name has bytes, and no name has more
characters than that. -/
namespace BrokerVault

namespace NameMap

variable {α : Type}

theorem Ascending.mem {map : NameMap α} (sorted : map.Ascending) {name : String} {value : α} :
    (name, value) ∈ map ↔ map.get? name = some value := by
  induction map with
  | nil => simp [get?]
  | cons entry rest ih =>
    obtain ⟨first, held⟩ := entry
    obtain ⟨behind, sorted⟩ := List.pairwise_cons.1 sorted
    rw [List.mem_cons, ih sorted, getCons]
    by_cases same : name = first
    · subst same
      have absent : get? rest name ≠ some value := fun found =>
        String.lt_irrefl name (behind name (memNames.2 (Option.isSome_of_eq_some found)))
      simp [absent, eq_comm]
    · simp [same]

end NameMap

namespace Reporting

open Report (Event)

def isSuccess : Event → Bool
  | .succeeded _ _ => true
  | _ => false

def failure? : Event → Option (String × String)
  | .failed guid _ reason => some (guid, reason)
  | _ => none

def upgradable? : Event → Option Nat
  | .totals _ upgradable => some upgradable
  | _ => none

def failures (events : List Event) : List (String × String) := events.filterMap failure?

def lastReason? (events : List Event) (guid : String) : Option String :=
  (failures events).reverse.lookup guid

def lastTarget (events : List Event) : Nat := (events.filterMap upgradable?).getLast?.getD 0

def tally (events : List Event) : Report := (Report.empty.run events).1

def Adds (earlier : List Event) (event : Event) (lines : List String) : Prop :=
  ∀ later, (Report.empty.run (earlier ++ event :: later)).2 =
    (Report.empty.run earlier).2 ++ lines ++ ((tally (earlier ++ [event])).run later).2

def progressText (events : List Event) : String :=
  s!"upgraded {events.countP isSuccess + (failures events).length} of {lastTarget events}"

inductive Columned (fill : Char) (offset : Nat) (name details : String) : String → Prop where
  | filled (padding : Nat) (closes : name.length + padding = offset) :
      Columned fill offset name details
        (name ++ String.ofList (List.replicate padding fill) ++ " | " ++ details)

inductive Tabulates (events : List Event) : List String → Prop where
  | calm (none : failures events = []) : Tabulates events []
  | table {offset rows header rule lines} (failed : failures events ≠ [])
      (ascending : rows.Pairwise fun above below => Bytes.ofText above.1 < Bytes.ofText below.1)
      (reasons : ∀ guid reason, (guid, reason) ∈ rows ↔ lastReason? events guid = some reason)
      (top : Columned ' ' offset "Service Instance GUID" "Details" header)
      (ruled : Columned '-' offset "" "-------" rule)
      (columns : List.Forall₂ (fun row line => Columned ' ' offset row.1 row.2 line) rows lines) :
      Tabulates events
        (s!"failed to upgrade {((failures events).map Prod.fst).dedup.length} instances" :: "" ::
          header :: rule :: lines)

structure Counts (events : List Event) (report : Report) : Prop where
  target : report.target = lastTarget events
  successes : report.successes = events.countP isSuccess
  complete : report.complete = events.countP isSuccess + (failures events).length
  reasons : ∀ guid, report.failures.get? guid = lastReason? events guid
  ascending : report.failures.Ascending

variable {events : List Event} {report : Report}

theorem countsNothing : Counts [] .empty := ⟨rfl, rfl, rfl, fun _ => rfl, .nil⟩

theorem failuresAfter (earlier : List Event) (event : Event) :
    failures (earlier ++ [event]) = failures earlier ++ (failure? event).toList := by
  rw [failures, List.filterMap_append]
  cases found : failure? event <;> simp [failures, found]

theorem targetAfter (earlier : List Event) (event : Event) :
    lastTarget (earlier ++ [event]) = (upgradable? event).getD (lastTarget earlier) := by
  rw [lastTarget, List.filterMap_append]
  cases found : upgradable? event <;> simp [lastTarget, found]

theorem reasonAfter (earlier : List Event) (event : Event) (guid : String) :
    lastReason? (earlier ++ [event]) guid =
      ((failure? event).toList.lookup guid).or (lastReason? earlier guid) := by
  rw [lastReason?, failuresAfter, List.reverse_append, List.lookup_append]
  cases failure? event <;> rfl

theorem afterEvent (report : Report) (event : Event) :
    report.after event =
      { target := (upgradable? event).getD report.target
        complete := report.complete + (if isSuccess event then 1 else 0) +
          (failure? event).toList.length
        successes := report.successes + if isSuccess event then 1 else 0
        failures := (failure? event).elim report.failures fun (guid, reason) =>
          report.failures.insert guid reason } := by
  cases event <;> rfl

theorem Counts.after (counts : Counts events report) (event : Event) :
    Counts (events ++ [event]) (report.after event) := by
  rw [afterEvent]
  refine ⟨?_, ?_, ?_, fun guid => ?_, ?_⟩
  · rw [targetAfter, counts.target]
  · rw [List.countP_append, List.countP_singleton, counts.successes]
  · simp only [List.countP_append, List.countP_singleton, failuresAfter, List.length_append,
      counts.complete]
    omega
  · rw [reasonAfter, ← counts.reasons]
    cases failure? event with
    | none => rfl
    | some failed =>
      obtain ⟨name, reason⟩ := failed
      refine (NameMap.getInsert _ _ _ _).trans ?_
      by_cases same : guid = name
      · simp [same]
      · simp [List.lookup_cons, beq_false_of_ne same, same]
  · cases failure? event with
    | none => exact counts.ascending
    | some failed => exact NameMap.insertAscending _ _ counts.ascending

theorem runTally (report : Report) (events : List Event) :
    (report.run events).1 = events.foldl Report.after report := by
  induction events generalizing report with
  | nil => rfl
  | cons event rest ih => exact ih (report.after event)

theorem runLines (report : Report) (events later : List Event) :
    (report.run (events ++ later)).2 =
      (report.run events).2 ++ ((report.run events).1.run later).2 := by
  induction events generalizing report with
  | nil => rfl
  | cons event rest ih =>
    show report.lines event ++ ((report.after event).run (rest ++ later)).2 = _
    rw [ih, ← List.append_assoc]
    rfl

theorem tallyCounts (events : List Event) : Counts events (tally events) := by
  rw [tally, runTally]
  induction events using List.reverseRec with
  | nil => exact countsNothing
  | append_singleton earlier event ih =>
    rw [List.foldl_append]
    exact ih.after event

theorem addsLines (earlier : List Event) (event : Event) :
    Adds earlier event ((tally earlier).lines event) := by
  intro later
  have onward : tally (earlier ++ [event]) = (tally earlier).after event := by
    simp only [tally, runTally, List.foldl_append, List.foldl_cons, List.foldl_nil]
  rw [runLines, List.append_assoc, onward]
  rfl

theorem Counts.progressLine (counts : Counts events report) :
    report.progressLine = progressText events := by
  rw [Report.progressLine, progressText, counts.complete, counts.target]

/-! The table. -/

theorem padEndColumned (fill : Char) {width : Nat} {name : String} (fits : name.length ≤ width)
    (details : String) :
    Columned fill width name details (Report.tableRow fill width name details) :=
  .filled (width - name.length) (Nat.add_sub_of_le fits)

theorem widthAtLeast (entries : List (String × String)) (start : Nat) :
    start ≤ entries.foldl (fun width entry => max width entry.1.utf8ByteSize) start ∧
    ∀ entry ∈ entries, entry.1.utf8ByteSize ≤
      entries.foldl (fun width entry => max width entry.1.utf8ByteSize) start := by
  induction entries generalizing start with
  | nil => exact ⟨Nat.le_refl _, nofun⟩
  | cons first rest ih =>
    obtain ⟨least, each⟩ := ih (max start first.1.utf8ByteSize)
    refine ⟨Nat.le_trans (Nat.le_max_left _ _) least, List.forall_mem_cons.2 ⟨?_, each⟩⟩
    exact Nat.le_trans (Nat.le_max_right _ _) least

theorem namesFit (report : Report) :
    Report.tableHeader.length ≤ report.tableWidth ∧
    ∀ row ∈ report.failures, row.1.length ≤ report.tableWidth := by
  obtain ⟨header, each⟩ := widthAtLeast report.failures Report.tableHeader.utf8ByteSize
  exact ⟨Nat.le_trans (lengthAtMostBytes _) header,
    fun row place => Nat.le_trans (lengthAtMostBytes _) (each row place)⟩

theorem Counts.names (counts : Counts events report) :
    report.failures.length = ((failures events).map Prod.fst).dedup.length := by
  have same : report.failures.names.Perm ((failures events).map Prod.fst).dedup := by
    refine (List.perm_ext_iff_of_nodup counts.ascending.distinct (List.nodup_dedup _)).2 ?_
    intro guid
    have told : guid ∈ NameMap.names (failures events).reverse ↔
        (lastReason? events guid).isSome := NameMap.memNames
    rw [NameMap.memNames, counts.reasons, List.mem_dedup]
    exact told.symm.trans (by simp [NameMap.names])
  simpa [NameMap.names] using same.length_eq

theorem Counts.tabulates (counts : Counts events report) :
    Tabulates events (if report.failures.isEmpty then [] else
      s!"failed to upgrade {report.failures.length} instances" :: "" :: report.failureTable) := by
  have length := counts.names
  by_cases none : failures events = []
  · have empty : report.failures = [] := by simpa [none] using length
    rw [if_pos (by simp [empty])]
    exact .calm none
  · have some : report.failures ≠ [] := by
      intro empty
      simpa [empty, none] using length.symm
    obtain ⟨header, each⟩ := namesFit report
    have ascending : report.failures.Pairwise fun above below =>
        Bytes.ofText above.1 < Bytes.ofText below.1 :=
      (List.pairwise_map.1 counts.ascending).imp bytesAscend
    rw [if_neg (by simpa using some), length]
    refine .table none ascending (fun guid reason => ?_) (padEndColumned ' ' header "Details")
      (padEndColumned '-' (Nat.zero_le _) "-------") ?_
    · rw [counts.ascending.mem, counts.reasons]
    · rw [List.forall₂_map_right_iff, List.forall₂_same]
      exact fun row place => padEndColumned ' ' (each row place) row.2

/-- The progress line counts the calls so far, and the closing lines tell of every failure once. -/
theorem reportTellsEvents (earlier : List Event) :
    Adds earlier .progress [progressText earlier] ∧
    ∃ table, Tabulates earlier table ∧
      Adds earlier .closing ([progressText earlier, "---",
        s!"successfully upgraded {earlier.countP isSuccess} instances"] ++ table) := by
  have counts := tallyCounts earlier
  refine ⟨?_, _, counts.tabulates, ?_⟩
  · rw [← counts.progressLine]
    exact addsLines earlier .progress
  · rw [← counts.progressLine, ← counts.successes]
    exact addsLines earlier .closing

end Reporting
end BrokerVault
