import BrokerVault.Proofs.Credentials

/-! A journal of what was done to the stored credentials: which were saved, which label was made the
primary and which labels were removed. The journal alone says which credentials are there still, in
which order, and which of them is primary. -/
namespace BrokerVault.Ledger

structure Mark where
  label : String
  salt : Bytes
  canary : Bytes
  created : Timestamp

def Mark.ofRow (row : Row Credential) : Mark :=
  ⟨row.id, row.value.salt, row.value.canary, row.value.created⟩

inductive Entry where
  | saved (mark : Mark)
  | promoted (label : String)
  | removed (labels : List String)

namespace Entry

def mark? : Entry → Option Mark
  | saved mark => some mark
  | _ => none

def removes (label : String) : Entry → Bool
  | removed labels => labels.contains label
  | _ => false

def spares (label : String) : Entry → Bool
  | saved _ => true
  | promoted _ => false
  | removed labels => !labels.contains label

end Entry

def lasting : List Entry → List Mark
  | [] => []
  | entry :: later =>
    (entry.mark?.filter fun mark => !later.any (·.removes mark.label)).toList ++ lasting later

/-- The label was promoted last of all, and it has not been removed since. No label means that there
is no primary. -/
def Promoted (journal : List Entry) (label : String) : Prop :=
  label ≠ "" ∧ ∃ earlier later, journal = earlier ++ .promoted label :: later ∧
    ∀ entry ∈ later, entry.spares label = true

theorem lastingAppend (journal : List Entry) (entry : Entry) :
    lasting (journal ++ [entry]) =
      (lasting journal).filter (fun mark => !entry.removes mark.label) ++ entry.mark?.toList := by
  induction journal with
  | nil => cases entry <;> rfl
  | cons first journal ih =>
    rw [List.cons_append, lasting, ih, lasting, List.filter_append, List.append_assoc]
    refine congrArg (· ++ _) ?_
    cases first.mark? with
    | none => rfl
    | some mark =>
      cases later : journal.any (·.removes mark.label) <;>
        cases last : entry.removes mark.label <;> simp [Option.filter, later, last]

theorem promotedNil (label : String) : ¬Promoted [] label := by
  rintro ⟨_, earlier, later, wrong, _⟩
  simp at wrong

theorem promotedAppend {journal : List Entry} {entry : Entry} {label : String} :
    Promoted (journal ++ [entry]) label ↔
      label ≠ "" ∧ entry = .promoted label ∨ Promoted journal label ∧ entry.spares label = true := by
  constructor
  · rintro ⟨named, earlier, later, layout, spared⟩
    rcases List.eq_nil_or_concat later with rfl | ⟨others, last, rfl⟩
    · exact .inl ⟨named, List.singleton_inj.1 (List.append_inj' layout rfl).2⟩
    · rw [List.concat_eq_append, ← List.cons_append, ← List.append_assoc] at layout
      obtain ⟨rfl, same⟩ := List.append_inj' layout rfl
      cases List.singleton_inj.1 same
      refine .inr ⟨⟨named, earlier, others, rfl, fun entry place => spared entry ?_⟩,
        spared _ (by simp)⟩
      simp [place]
  · rintro (⟨named, rfl⟩ | ⟨⟨named, earlier, later, rfl, spared⟩, last⟩)
    · exact ⟨named, journal, [], rfl, by simp⟩
    · refine ⟨named, earlier, later ++ [entry], by simp, fun other place => ?_⟩
      rcases List.mem_append.1 place with before | same
      · exact spared other before
      · rw [List.mem_singleton.1 same, last]

end BrokerVault.Ledger
