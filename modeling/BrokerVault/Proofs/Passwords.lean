import BrokerVault.Cipher.Suite
import BrokerVault.Proofs.Texts
import BrokerVault.Settings
import Mathlib.Data.List.Nodup

/-! Password lists that validation accepts, and that nothing else comes out of reading one. -/
namespace BrokerVault.Password

structure Accepted (entries : List Password) : Prop where
  secrets : ∀ entry ∈ entries, secretLength.Holds entry.secret
  labels : ∀ entry ∈ entries, labelLength.Holds entry.label
  distinct : (entries.map (·.label)).Nodup
  onePrimary : (entries.filter (·.primary)).length ≤ 1

theorem lengthFaultsNil (path : String) (range : LengthRange) (text : String) :
    lengthFaults path range text = [] ↔ range.Holds text := by
  by_cases holds : range.Holds text <;> simp [lengthFaults, holds]

theorem entryFaultsNil (index : Nat) (earlier : List String) (entry : Password) :
    entryFaults index earlier entry = [] ↔
      secretLength.Holds entry.secret ∧ labelLength.Holds entry.label ∧ entry.label ∉ earlier := by
  simp only [entryFaults, List.append_eq_nil_iff, lengthFaultsNil, and_assoc]
  by_cases repeated : entry.label ∈ earlier <;> simp [repeated]

theorem faultsFromNil (index : Nat) (earlier : List String) (entries : List Password) :
    faultsFrom index earlier entries = [] ↔
      (∀ entry ∈ entries, secretLength.Holds entry.secret ∧ labelLength.Holds entry.label ∧
        entry.label ∉ earlier) ∧ (entries.map (·.label)).Nodup := by
  induction entries generalizing index earlier with
  | nil => simp [faultsFrom]
  | cons entry rest ih =>
    rw [faultsFrom, List.append_eq_nil_iff, entryFaultsNil, ih, List.forall_mem_cons, List.map_cons,
      List.nodup_cons]
    constructor
    · rintro ⟨head, each, distinct⟩
      refine ⟨⟨head, fun other place => ?_⟩, ?_, distinct⟩
      · obtain ⟨secret, label, new⟩ := each other place
        exact ⟨secret, label, fun old => new (List.mem_cons_of_mem _ old)⟩
      · intro place
        obtain ⟨other, found, same⟩ := List.mem_map.1 place
        exact (each other found).2.2 (same ▸ List.mem_cons_self)
    · rintro ⟨⟨head, each⟩, new, distinct⟩
      refine ⟨head, fun other place => ?_, distinct⟩
      obtain ⟨secret, label, absent⟩ := each other place
      refine ⟨secret, label, fun old => ?_⟩
      rcases List.mem_cons.1 old with same | old
      · exact new (List.mem_map.2 ⟨other, place, same⟩)
      · exact absent old

theorem acceptedIff (entries : List Password) : faults entries = [] ↔ Accepted entries := by
  rw [faults, List.append_eq_nil_iff, faultsFromNil]
  constructor
  · rintro ⟨⟨each, distinct⟩, primaries⟩
    refine ⟨fun entry place => (each entry place).1, fun entry place => (each entry place).2.1,
      distinct, ?_⟩
    by_contra several
    rw [if_pos (by omega)] at primaries
    cases primaries
  · intro accepted
    refine ⟨⟨fun entry place => ⟨accepted.secrets entry place, accepted.labels entry place, by simp⟩,
      accepted.distinct⟩, if_neg (Nat.not_lt.2 accepted.onePrimary)⟩

theorem acceptedOfValidated {entries read : List Password} (ran : validated entries = .ok read) :
    Accepted read := by
  unfold validated at ran
  split at ran
  · rename_i none
    cases ran
    exact (acceptedIff _).1 none
  · cases ran

theorem acceptedNil : Accepted [] := (acceptedIff []).1 rfl

theorem acceptedOfText {text : String} {entries : List Password} (ran : ofText? text = .ok entries) :
    Accepted entries := by
  unfold ofText? at ran
  split at ran
  · cases ran
    exact acceptedNil
  · split at ran
    · exact acceptedOfValidated ran
    · cases ran

theorem acceptedOfJson {value : Json} {entries : List Password} (ran : ofJson? value = .ok entries) :
    Accepted entries := by
  unfold ofJson? at ran
  split at ran
  · cases ran
    exact acceptedNil
  · exact acceptedOfText ran
  · split at ran
    · exact acceptedOfValidated ran
    · cases ran
  · cases ran
  · cases ran
  · cases ran

theorem acceptedResolved {enabled : Option Bool} {passwords : Option String}
    {file : Option ConfigFile} {settings : Settings}
    (ran : Settings.resolve enabled passwords file = .ok settings) : Accepted settings.passwords := by
  unfold Settings.resolve at ran
  dsimp only at ran
  split at ran
  · rename_i entries found
    cases ran
    split at found
    · exact acceptedOfText found
    · exact acceptedOfJson found
    · cases found
      exact acceptedNil
  · cases ran

namespace Accepted

variable {entries : List Password} (accepted : Accepted entries)
include accepted

theorem labelLong {entry : Password} (place : entry ∈ entries) :
    entry.label ≠ "" ∧ entry.label ≠ "none" := by
  have long := (accepted.labels entry place).1
  constructor
  · intro empty
    rw [empty] at long
    revert long
    decide
  · intro reserved
    rw [reserved] at long
    revert long
    decide

theorem secretLong {entry : Password} (place : entry ∈ entries) :
    CipherSuite.leastSecretBytes ≤ entry.secret.utf8ByteSize :=
  Nat.le_trans (accepted.secrets entry place).1 (lengthAtMostBytes entry.secret)

theorem sameEntry {one other : Password} (first : one ∈ entries) (second : other ∈ entries)
    (label : one.label = other.label) : one = other :=
  List.inj_on_of_nodup_map accepted.distinct first second label

theorem primaryFound {entry found : Password} (place : entry ∈ entries) (primary : entry.primary = true)
    (first : entries.find? (·.primary) = some found) : entry = found := by
  have many := accepted.onePrimary
  have one : entry ∈ entries.filter (·.primary) := List.mem_filter.2 ⟨place, primary⟩
  have other : found ∈ entries.filter (·.primary) :=
    List.mem_filter.2 ⟨List.mem_of_find?_eq_some first, List.find?_some first⟩
  cases filtered : entries.filter (·.primary) with
  | nil => simp [filtered] at one
  | cons head rest =>
    rw [filtered, List.length_cons] at many
    have alone : rest = [] := List.length_eq_zero_iff.1 (by omega)
    rw [filtered, alone, List.mem_singleton] at one other
    rw [one, other]

end Accepted
end BrokerVault.Password
