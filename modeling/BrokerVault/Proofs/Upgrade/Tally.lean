import BrokerVault.Proofs.NameMap
import BrokerVault.Upgrade.Shift
import Mathlib.Data.List.Perm.Subperm

/-! The tally of a report against the outcomes that were reported: the failures hold every name that
failed, with the reason of its last failure. -/
namespace BrokerVault

namespace Upgrade

def failureOf? (guid : String) : Task × Ending → Option String
  | (task, .fails error) => if task.guid = guid then some error.message else none
  | (_, .succeeds) | (_, .panics) => none

def lastFailure? (outcomes : List (Task × Ending)) (guid : String) : Option String :=
  outcomes.reverse.findSome? (failureOf? guid)

structure Tallies (outcomes : List (Task × Ending)) (report : Report) : Prop where
  successes : report.successes = outcomes.countP fun outcome => outcome.2 = .succeeds
  failures : ∀ guid, report.failures.get? guid = lastFailure? outcomes guid
  ascending : report.failures.Ascending

theorem lastFailureAppend (outcomes : List (Task × Ending)) (outcome : Task × Ending)
    (guid : String) :
    lastFailure? (outcomes ++ [outcome]) guid =
      (failureOf? guid outcome).or (lastFailure? outcomes guid) := by
  rw [lastFailure?, List.reverse_append, List.reverse_singleton, List.singleton_append,
    List.findSome?_cons]
  cases failureOf? guid outcome <;> rfl

theorem lastFailureFound {outcomes : List (Task × Ending)} {guid : String} :
    (lastFailure? outcomes guid).isSome ↔
      ∃ outcome ∈ outcomes, (failureOf? guid outcome).isSome := by
  simp [lastFailure?, List.findSome?_isSome_iff]

theorem failureOfFails {outcome : Task × Ending} {guid : String} :
    (failureOf? guid outcome).isSome ↔
      outcome.2 ≠ .succeeds ∧ outcome.2 ≠ .panics ∧ outcome.1.guid = guid := by
  obtain ⟨task, ending⟩ := outcome
  cases ending with
  | fails error => by_cases same : task.guid = guid <;> simp [failureOf?, same]
  | succeeds => simp [failureOf?]
  | panics => simp [failureOf?]

theorem talliesNothing : Tallies [] .empty := ⟨rfl, fun _ => rfl, .nil⟩

theorem Tallies.target {outcomes : List (Task × Ending)} {report : Report}
    (tallies : Tallies outcomes report) (total upgradable : Nat) :
    Tallies outcomes (report.after (.totals total upgradable)) :=
  ⟨tallies.successes, tallies.failures, tallies.ascending⟩

@[simp] theorem concludeOutcomes (chronicle : Chronicle) (task : Task) (ending : Ending)
    (after : Elapsed) :
    (chronicle.conclude task ending after).outcomes = chronicle.outcomes ++ [(task, ending)] := by
  cases ending <;> rfl

theorem Tallies.conclude {chronicle : Chronicle}
    (tallies : Tallies chronicle.outcomes chronicle.report) (task : Task) (ending : Ending)
    (after : Elapsed) :
    Tallies (chronicle.conclude task ending after).outcomes
      (chronicle.conclude task ending after).report := by
  obtain ⟨successes, failures, ascending⟩ := tallies
  rw [concludeOutcomes]
  cases ending with
  | succeeds =>
    refine ⟨?_, fun guid => ?_, ascending⟩
    · simp [Chronicle.conclude, Chronicle.record, Report.after, successes]
    · rw [lastFailureAppend]
      exact failures guid
  | fails error =>
    refine ⟨?_, fun guid => ?_, NameMap.insertAscending _ _ ascending⟩
    · simp [Chronicle.conclude, Chronicle.record, Report.after, successes]
    · rw [lastFailureAppend, ← failures]
      refine (NameMap.getInsert _ _ _ _).trans ?_
      by_cases same : guid = task.guid
      · simp [failureOf?, same]
      · simp [failureOf?, same, Ne.symm same]
  | panics =>
    refine ⟨?_, fun guid => ?_, ascending⟩
    · simp [Chronicle.conclude, successes]
    · rw [lastFailureAppend]
      exact failures guid

theorem Tallies.balanced {outcomes : List (Task × Ending)} {report : Report}
    (tallies : Tallies outcomes report)
    (distinct : (outcomes.map fun outcome => outcome.1.guid).Nodup)
    (calm : ∀ outcome ∈ outcomes, outcome.2 ≠ .panics) :
    report.successes + report.failures.length = outcomes.length := by
  let fails (outcome : Task × Ending) : Bool := outcome.2 ≠ .succeeds
  have failing : (report.failures.names).Perm
      ((outcomes.filter fails).map fun outcome => outcome.1.guid) := by
    have among : (outcomes.filter fails).Sublist outcomes := List.filter_sublist
    have once := distinct.sublist (among.map fun outcome => outcome.1.guid)
    refine (List.perm_ext_iff_of_nodup tallies.ascending.distinct once).2 fun guid => ?_
    rw [NameMap.memNames, tallies.failures, lastFailureFound, List.mem_map]
    refine exists_congr fun outcome => ?_
    rw [failureOfFails, List.mem_filter, and_assoc]
    have kept (place : outcome ∈ outcomes) := calm outcome place
    simp only [fails, decide_eq_true_eq]
    tauto
  have count : report.failures.length = outcomes.countP fails := by
    have length := failing.length_eq
    rwa [NameMap.names, List.length_map, List.length_map, ← List.countP_eq_length_filter] at length
  rw [tallies.successes, count, List.length_eq_countP_add_countP fun outcome => outcome.2 = .succeeds]
  simp [fails]

end Upgrade
end BrokerVault
