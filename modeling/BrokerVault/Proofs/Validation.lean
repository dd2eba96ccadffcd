import BrokerVault.Proofs.Passwords

/-! The report of a validation, told for every entry by itself: by its own lengths, by its place in the
list and by the entries ahead of it. -/
namespace BrokerVault.Password

def reportOf (entries : List Password) (entry : Password) (index : Nat) : List FieldFault :=
  (if 20 ≤ entry.secret.length ∧ entry.secret.length ≤ 1024 then []
    else [⟨s!"[{index}].password.secret", s!"expected length 20-1024, got {entry.secret.length}"⟩])
  ++ (if 5 ≤ entry.label.length ∧ entry.label.length ≤ 20 then []
    else [⟨s!"[{index}].label", s!"expected length 5-20, got {entry.label.length}"⟩])
  ++ if ∃ earlier ∈ entries.take index, earlier.label = entry.label then
    [⟨s!"[{index}].label", "duplicated value, must be unique: " ++ entry.label⟩]
  else []

def report (entries : List Password) : List FieldFault :=
  (entries.zipIdx.flatMap fun (entry, index) => reportOf entries entry index)
    ++ if 2 ≤ entries.countP (·.primary) then
      [⟨"[].primary", "expected exactly one primary, got multiple; "
        ++ "mark one password as primary and others as non-primary but do not remove them"⟩]
    else []

theorem secretReason (text : String) :
    lengthReason secretLength text = s!"expected length 20-1024, got {text.length}" := by
  have shown : s!"expected length {20}-{1024}, got " = "expected length 20-1024, got " := by decide
  exact congrArg (· ++ toString text.length) shown

theorem labelReason (text : String) :
    lengthReason labelLength text = s!"expected length 5-20, got {text.length}" := by
  have shown : s!"expected length {5}-{20}, got " = "expected length 5-20, got " := by decide
  exact congrArg (· ++ toString text.length) shown

theorem entryReport (before rest : List Password) (entry : Password) {earlier : List String}
    (seen : ∀ label, label ∈ earlier ↔ ∃ other ∈ before, other.label = label) :
    entryFaults before.length earlier entry =
      reportOf (before ++ entry :: rest) entry before.length := by
  have ahead : (before ++ entry :: rest).take before.length = before := List.take_left
  rw [entryFaults, reportOf, ahead, lengthFaults, lengthFaults, secretReason, labelReason]
  simp only [seen]
  rfl

theorem faultsFromReport (before rest : List Password) {earlier : List String}
    (seen : ∀ label, label ∈ earlier ↔ ∃ other ∈ before, other.label = label) :
    faultsFrom before.length earlier rest =
      (rest.zipIdx before.length).flatMap fun (entry, index) =>
        reportOf (before ++ rest) entry index := by
  induction rest generalizing before earlier with
  | nil => rfl
  | cons entry rest ih =>
    have longer : ∀ label, label ∈ entry.label :: earlier ↔
        ∃ other ∈ before ++ [entry], other.label = label := by
      intro label
      rw [List.mem_cons, seen]
      simp [or_and_right, exists_or, or_comm, eq_comm]
    have following := ih (before ++ [entry]) longer
    rw [List.length_append, List.length_singleton, List.append_assoc, List.singleton_append]
      at following
    rw [faultsFrom, entryReport before rest entry seen, following, List.zipIdx_cons,
      List.flatMap_cons]

theorem faultsReport (entries : List Password) : faults entries = report entries := by
  have each : faultsFrom 0 [] entries = _ := faultsFromReport [] entries (by simp)
  rw [faults, report, ← List.countP_eq_length_filter, each]
  rfl

/-- A list is accepted as it is, or refused with the whole report. -/
theorem validatedExactly (entries : List Password) :
    validated entries =
      if (∀ entry ∈ entries, (20 ≤ entry.secret.length ∧ entry.secret.length ≤ 1024) ∧
          5 ≤ entry.label.length ∧ entry.label.length ≤ 20) ∧
        (entries.map (·.label)).Nodup ∧ entries.countP (·.primary) ≤ 1
      then .ok entries
      else .error (.invalid (report entries)) := by
  have accepting := acceptedIff entries
  rw [faultsReport] at accepting
  rw [validated, faultsReport]
  cases told : report entries with
  | nil =>
    obtain ⟨secrets, labels, distinct, primaries⟩ := accepting.1 told
    rw [← List.countP_eq_length_filter] at primaries
    exact (if_pos ⟨fun entry place => ⟨secrets entry place, labels entry place⟩, distinct,
      primaries⟩).symm
  | cons first others =>
    refine (if_neg fun fit => ?_).symm
    obtain ⟨each, distinct, primaries⟩ := fit
    rw [List.countP_eq_length_filter] at primaries
    have none := accepting.2 ⟨fun entry place => (each entry place).1,
      fun entry place => (each entry place).2, distinct, primaries⟩
    cases told.symm.trans none

example :
    report [⟨"first", "a secret of twenty bytes", true⟩, ⟨"first", "a secret of twenty bytes", true⟩,
        ⟨"first", "", true⟩] =
      [⟨"[1].label", "duplicated value, must be unique: first"⟩,
        ⟨"[2].password.secret", "expected length 20-1024, got 0"⟩,
        ⟨"[2].label", "duplicated value, must be unique: first"⟩,
        ⟨"[].primary", "expected exactly one primary, got multiple; "
          ++ "mark one password as primary and others as non-primary but do not remove them"⟩] := by
  decide

end BrokerVault.Password
