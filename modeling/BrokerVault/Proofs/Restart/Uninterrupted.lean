import BrokerVault.Proofs.Restart.Midway

/-! What one uninterrupted run shows: that the canaries open, that every value reads and can be sealed
where the primary changes, and that its key is stored where it does not. All later runs rest on it. -/
namespace BrokerVault.Restart

open Reconciliation Reencryption

variable {suite : CipherSuite} {settings : Settings} {Worlds : Surroundings → Prop}
  {base : Database} {world : Surroundings} {before longer : Table Credential} {sole : Option String}
  {new : List (Row Credential)} {encryptors : List Encryptor} {plan : Reconciliation}

theorem enrolledReady (alike : suite.SealsAlike)
    (enrolled : Enrolled suite world before.rows settings.passwords new encryptors)
    {entry : Password} (configured : entry ∈ settings.passwords) :
    Enrollable suite before.rows entry := by
  refine ⟨fun row found => enrolled.knownOpens configured found, fun absent salt nonce => ?_⟩
  obtain ⟨row, key, made⟩ := enrolled.madeFor configured absent
  obtain ⟨_, _, canary⟩ := made.canary
  obtain ⟨other, sealing⟩ := CipherSuite.sealOther alike canary nonce
  exact ⟨_, other, CipherSuite.deriveLong (CipherSuite.derivedLong made.derived) salt.2, sealing⟩

theorem foundedReaders (found : base.credentials = some before)
    (accepted : Password.Accepted settings.passwords)
    (founded : Founded suite world settings before longer sole new encryptors plan)
    (allowed : Worlds world) : Readers suite settings Worlds base encryptors := by
  refine (pairedWithin founded.held).imp ?_
  rintro entry encryptor ⟨configured, row, place, key, label, derived, rfl⟩
  refine ⟨key, ?_, rfl⟩
  rcases founded.origin accepted configured place label with old | ⟨absent, made, fresh⟩
  · exact .ofStored found (Table.findSome old).1 ⟨rfl, rfl, rfl⟩ label derived
  · cases fresh.derived.symm.trans derived
    exact .ofMade found absent allowed fresh.toMade

theorem restingChosen (accepted : Password.Accepted settings.passwords)
    (founded : Founded suite world settings before longer sole new encryptors plan)
    (rests : primaryLabel settings.passwords = sole.getD "") :
    Chosen suite before.rows settings.passwords plan.encryptor := by
  have chosen := founded.chosen
  generalize plan.encryptor = writer at chosen ⊢
  cases chosen with
  | none absent => exact .none absent
  | @key entry _ primary held =>
    have configured := List.mem_of_find?_eq_some primary
    have label : sole = some entry.label := by
      cases sole with
      | none =>
        rw [primaryLabel, primary] at rests
        exact absurd rests (accepted.labelLong configured).1
      | some label =>
        rw [primaryLabel, primary] at rests
        exact congrArg some rests.symm
    obtain ⟨row, place, key, same, rest⟩ := held
    have stored : row.id ∈ Credentials.primaryLabels before := by
      rw [Credentials.primaryLabels, solePrimaryOk.1 founded.alone, label, same]
      exact List.mem_singleton_self _
    obtain ⟨old, found, alike⟩ := List.mem_map.1 stored
    have oldPlace := (List.mem_filter.1 found).1
    have oldLater : old ∈ longer.rows := founded.rows ▸ List.mem_append_left _ oldPlace
    cases Table.sameRow oldLater place alike
    exact .key primary ⟨row, oldPlace, key, same, rest⟩

theorem turningTables (alike : suite.SealsAlike)
    (founded : Founded suite world settings before longer sole new encryptors plan)
    (turns : primaryLabel settings.passwords ≠ sole.getD "") {vault after : Vault} {count : Nat}
    {rotation : Encryptor} (due : plan.rotation = some rotation)
    (ran : rewriteAll suite rotation world vault = (.ok count, after)) (name : ProtectedTable) :
    ∃ stored, vault.database.table? name = some stored ∧
      ∀ row ∈ stored.after 0, row.value = .null ∨
        ∃ value document, row.value.read name = .ok (some value) ∧
          (Encryptor.compound .noop (encryptors ++ plainReader sole settings.passwords)).readDocument
            suite value = .ok document ∧
          ∀ rows writer (nonce : BytesOf nonceLength),
            Chosen suite rows settings.passwords writer →
              ∃ sealedValue, writer.sealColumn suite name.format (some nonce) document =
                .ok sealedValue := by
  have form := founded.rotation
  rw [due, if_neg turns] at form
  cases form
  obtain ⟨stored, changed, table, _, rows⟩ := (rewriteAllWhole ran).2.2 name
  refine ⟨stored, table, fun row found => ?_⟩
  obtain ⟨place, visited⟩ := Table.memAfter.1 found
  obtain ⟨after, _, low | ⟨_, step⟩⟩ := pairedLeft rows place
  · exact absurd low.1 (Int.not_le.2 visited)
  · cases step with
    | null empty => exact .inl empty
    | value held opened written =>
      rw [Encryptor.sealCompound] at written
      obtain ⟨opens, checked⟩ := Encryptor.readDocumentOk.1 opened
      rw [Encryptor.openCompoundWriter _ .noop] at opens
      exact .inr ⟨_, _, held, Encryptor.readDocumentOk.2 ⟨opens, checked⟩,
        fun rows writer nonce chosen => founded.chosen.sealsAlike alike chosen written nonce⟩

theorem basisOf (law : suite.OpensSealed) (alike : suite.SealsAlike)
    (accepted : Password.Accepted settings.passwords)
    (separated : Separated suite settings Worlds base) (allowed : Worlds world) {setup : Setup}
    {after : Vault}
    (ran : Setup.run suite settings world (.ofDatabase base) = (.ok setup, after)) :
    Nonempty (Basis suite settings Worlds base) := by
  cases Setup.runRan ran with
  | @checked plan middle rotated unreadable turnedVault _ _ _ reconciled turned checking _ answer =>
    rcases reconcileRan reconciled with ⟨_, wrong, _⟩ | ⟨before, found, planned, _⟩
    · cases wrong
    obtain ⟨longer, sole, new, encryptors, founded, database⟩ := planned plan rfl
    have table : middle.database.credentials = some longer := by
      rw [database, Database.credentialsOfWith]
    refine ⟨⟨law, accepted, separated, before, found, sole, solePrimaryOk.1 founded.alone,
      founded.supplied, founded.policy, fun _ configured => enrolledReady alike founded.enrolled configured,
      encryptors, foundedReaders found accepted founded allowed, unreadable, fun turns => ?_,
      fun rests => ?_⟩⟩
    · cases turned with
      | none absent => simp [founded.rotation, turns] at absent
      | some due rotating =>
        cases rotating with
        | promoted checked ran promotion =>
          obtain ⟨_, _, tables⟩ := Setup.promotedRan law accepted founded due table
            (.promoted checked ran promotion)
          cases checking.symm.trans (Verification.failuresNil.2 (Setup.allReadAfter tables))
          refine ⟨rfl, fun name => ?_⟩
          have tables := turningTables alike founded turns due ran name
          rw [database, Database.tableOfWith] at tables
          exact tables
    · cases turned with
      | some due => simp [founded.rotation, rests] at due
      | none =>
        rw [database, Verification.failuresTables] at checking
        exact ⟨plan.encryptor, restingChosen accepted founded rests, checking⟩

end BrokerVault.Restart
