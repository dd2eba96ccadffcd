import BrokerVault.Proofs.Rotation

/-! The primary that a setup leaves. It is the configured one alone, whether it was stored before or
the rotation moved it there, and removing what is stale does not take it away. -/
namespace BrokerVault.Setup

open Reconciliation

variable {suite : CipherSuite} {world : Surroundings} {settings : Settings} {vault after : Vault}
  {before longer stored : Table Credential} {sole : Option String} {new : List (Row Credential)}
  {encryptors : List Encryptor} {plan : Reconciliation}

theorem primariesKept (accepted : Password.Accepted settings.passwords)
    (founded : Founded suite world settings before longer sole new encryptors plan)
    (absent : plan.rotation = none) : Credentials.primaryLabels longer =
      Credentials.wanted (primaryLabel settings.passwords) := by
  have same : primaryLabel settings.passwords = sole.getD "" := by
    by_contra differ
    rw [founded.rotation, if_neg differ] at absent
    cases absent
  have named := founded.primaryNamed accepted
  rw [founded.primaries] at named ⊢
  cases sole with
  | none => exact same ▸ Credentials.wantedNone.symm
  | some label =>
    have filled : label ≠ "" := fun empty => named (by rw [empty]; exact List.mem_singleton_self _)
    rw [same, Option.getD_some, Credentials.wanted, if_neg (by simpa using filled)]
    rfl

theorem turnedPrimaries (law : suite.OpensSealed) (accepted : Password.Accepted settings.passwords)
    (founded : Founded suite world settings before longer sole new encryptors plan)
    (table : vault.database.credentials = some longer) {rotated : Option Nat}
    (turned : Turned suite world plan vault rotated after) :
    ∃ stored, after.database.credentials = some stored ∧
      List.Forall₂ Credentials.SameKey longer.rows stored.rows ∧
      Credentials.primaryLabels stored = Credentials.wanted (primaryLabel settings.passwords) := by
  cases turned with
  | none absent =>
    exact ⟨longer, table, List.forall₂_same.2 fun _ _ => ⟨rfl, rfl, rfl⟩,
      primariesKept accepted founded absent⟩
  | some due rotating =>
    obtain ⟨_, stored, _⟩ := promotedRan law accepted founded due table rotating
    exact stored

theorem primariesFresh (accepted : Password.Accepted settings.passwords)
    (founded : Founded suite world settings before longer sole new encryptors plan)
    (primaries : Credentials.primaryLabels stored =
      Credentials.wanted (primaryLabel settings.passwords)) :
    (stored.keep fun row => !plan.stale.contains row.id).rows.filter (·.value.primary) =
      stored.rows.filter (·.value.primary) := by
  rw [Table.keep, List.filter_filter]
  refine List.filter_congr fun row place => ?_
  cases primary : row.value.primary with
  | false => rfl
  | true =>
    have label := (Credentials.primaryLabelsAre stored place).1 primary
    rw [primaries, wantedPrimary accepted] at label
    obtain ⟨entry, configured, _, same⟩ := label
    have fresh := ((founded.labels row.id).2 (List.mem_map.2 ⟨entry, configured, same⟩)).2
    simpa using fresh

end BrokerVault.Setup
