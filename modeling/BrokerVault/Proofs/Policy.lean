import BrokerVault.Proofs.Completion

/-! The policy of reconciling, decided from the stored rows and the configured entries alone: which
refusal comes before the others, and what is planned where there is none. A run follows it, unless a
salt or a canary cannot be made for a new label. -/
namespace BrokerVault

theorem CipherSuite.openWithError {suite : CipherSuite} {key : Key} {value : Bytes}
    {cause : CipherError} (refused : suite.openWith key value = .error cause) :
    cause = .malformed ∨ cause = .rejected := by
  unfold openWith at refused
  split at refused
  · cases refused
    exact .inl rfl
  · split at refused
    · cases refused
    · cases refused
      exact .inr rfl

namespace Policy

open Reconciliation

def mismatched (suite : CipherSuite) (stored : List (Row Credential)) (entry : Password) : Bool :=
  match stored.find? (·.id == entry.label) with
  | some row =>
    !(suite.openWith (suite.deriveKey entry.secret row.value.salt) row.value.canary).isOk
  | none => false

def several (stored : List (Row Credential)) : Bool := 1 < (stored.filter (·.value.primary)).length

def storedPrimary? (stored : List (Row Credential)) : Option String :=
  (stored.find? (·.value.primary)).map (·.id)

def dropped? (primary : Option String) (entries : List Password) : Option ReconcileError :=
  (primary.filter fun label => !(entries.map (·.label)).contains label).map .missingPriorPrimary

def misplaced? (enabled : Bool) (entries : List Password) : Option ReconcileError :=
  match enabled, entries.any (·.primary) with
  | true, false => some .missingPrimary
  | false, true => some .unexpectedPrimary
  | _, _ => none

def refusal? (suite : CipherSuite) (enabled : Bool) (stored : List (Row Credential))
    (entries : List Password) : Option ReconcileError :=
  if several stored then some .severalPrimaries
  else
    match entries.find? (mismatched suite stored) with
    | some entry => some (.canaryMismatch entry.label)
    | none => dropped? (storedPrimary? stored) entries <|> misplaced? enabled entries

structure Planned (suite : CipherSuite) (stored longer : Table Credential) (entries : List Password)
    (encryptors : List Encryptor) (plan : Reconciliation) : Prop where
  keys : List.Forall₂ (Holds suite longer.rows) entries encryptors
  encryptor : Chosen suite longer.rows entries plan.encryptor
  configuredPrimary : plan.configuredPrimary = primaryLabel entries
  storedPrimary : plan.storedPrimary = (storedPrimary? stored.rows).getD ""
  changed : plan.changed = (plan.configuredPrimary != plan.storedPrimary)
  rotation : plan.rotation = if plan.changed then
      some (.compound plan.encryptor (encryptors ++
        if (storedPrimary? stored.rows).isNone || !entries.any (·.primary) then [.noop] else []))
    else none
  stale : plan.stale = (stored.rows.map (·.id)).filter fun label =>
    !(entries.map (·.label)).contains label

/-- An entry whose label is new, and for which no salt or nonce is drawn or no canary is sealed. No
entry before it is refused. -/
structure Unsealed (suite : CipherSuite) (world : Surroundings) (stored : List (Row Credential))
    (entries : List Password) (entry : Password) (cause : CipherError) : Prop where
  alone : several stored = false
  place : ∃ earlier rest, entries = earlier ++ entry :: rest ∧
    ∀ other ∈ earlier, mismatched suite stored other = false
  new : stored.find? (·.id == entry.label) = none
  broken : (cause = .noRandomness ∧ ∃ moment length, world.random moment length = none) ∨
    ∃ key nonce, suite.encrypt key nonce Canary.plaintext = .error cause

variable {suite : CipherSuite} {world : Surroundings} {settings : Settings} {vault after : Vault}
  {stored : List (Row Credential)} {table : Table Credential} {entries : List Password}

theorem storedPrimaryIs {sole : Option String} (alone : solePrimary? stored = .ok sole) :
    storedPrimary? stored = sole := by
  have first := congrArg List.head? (solePrimaryOk.1 alone)
  rw [List.head?_map, List.head?_filter] at first
  rw [storedPrimary?, first]
  cases sole <;> rfl

theorem solePrimaryDecides : solePrimary? stored =
    if several stored then .error .severalPrimaries else .ok (storedPrimary? stored) := by
  cases alone : solePrimary? stored with
  | ok sole =>
    have one : several stored = false := by
      have length := congrArg List.length (solePrimaryOk.1 alone)
      have short : sole.toList.length ≤ 1 := by cases sole <;> simp
      rw [List.length_map] at length
      simp only [several, decide_eq_false_iff_not]
      omega
    rw [one, storedPrimaryIs alone]
    rfl
  | error error =>
    have many : several stored = true ∧ error = .severalPrimaries := by
      unfold solePrimary? at alone
      split at alone
      · cases alone
      · cases alone
      · rename_i rows none single
        cases alone
        refine ⟨?_, rfl⟩
        cases found : stored.filter (·.value.primary) with
        | nil => exact absurd found none
        | cons first rest =>
          cases rest with
          | nil => exact absurd found (single first)
          | cons second others => simp [several, found]
    rw [many.1, many.2]
    rfl

theorem knownEncryptorDecides {entry : Password} {credential : Credential}
    (long : CipherSuite.leastSecretBytes ≤ entry.secret.utf8ByteSize)
    (length : credential.salt.length = saltLength) :
    knownEncryptor suite entry credential =
      if (suite.openWith (suite.deriveKey entry.secret credential.salt) credential.canary).isOk then
        .ok (.aead entry.label (suite.deriveKey entry.secret credential.salt))
      else .error (.canaryMismatch entry.label) := by
  have derived : suite.derive? entry.secret credential.salt =
      .ok (suite.deriveKey entry.secret credential.salt) := CipherSuite.deriveLong long length
  cases opened : suite.openWith (suite.deriveKey entry.secret credential.salt) credential.canary with
  | ok text => exact knownEncryptorOpens derived opened
  | error cause =>
    have refused : (Encryptor.aead entry.label
        (suite.deriveKey entry.secret credential.salt)).decrypt suite credential.canary =
          .error cause := opened
    rcases CipherSuite.openWithError opened with rfl | rfl <;>
      simp [knownEncryptor, deriveFor, derived, Canary.check, refused, bind, Except.bind,
        Except.isOk, Except.toBool]

theorem mismatchedKnown {entry : Password} {row : Row Credential}
    (known : stored.find? (·.id == entry.label) = some row)
    (long : CipherSuite.leastSecretBytes ≤ entry.secret.utf8ByteSize)
    (length : row.value.salt.length = saltLength) :
    (mismatched suite stored entry = false ∧
      ∃ encryptor, knownEncryptor suite entry row.value = .ok encryptor) ∨
    mismatched suite stored entry = true ∧
      knownEncryptor suite entry row.value = .error (.canaryMismatch entry.label) := by
  rw [knownEncryptorDecides long length]
  simp only [mismatched, known]
  cases (suite.openWith (suite.deriveKey entry.secret row.value.salt) row.value.canary).isOk with
  | true => exact .inl ⟨rfl, _, rfl⟩
  | false => exact .inr ⟨rfl, rfl⟩

theorem primaryIsSome (entries : List Password) :
    (entries.find? (·.primary)).isSome = entries.any (·.primary) := by
  rw [Bool.eq_iff_iff, List.find?_isSome, List.any_eq_true]

theorem ofPolicyDecides {enabled : Bool} {sole : Option String} {encryptors : List Encryptor}
    (length : encryptors.length = entries.length) :
    ofPolicy enabled stored sole (entries.zip encryptors) =
      match dropped? sole entries <|> misplaced? enabled entries with
      | some error => .error error
      | none => .ok (planOf stored sole (entries.zip encryptors)) := by
  have primaries : ((entries.zip encryptors).find? (·.1.primary)).isSome =
      entries.any (·.primary) := by
    rw [← primaryIsSome, ← zippedPrimary length, Option.isSome_map]
  simp only [ofPolicy, dropped?, misplaced?, zippedLabels length, ← primaries]
  cases sole.filter fun label => !(entries.map (·.label)).contains label with
  | some label => rfl
  | none =>
    cases primary : (entries.zip encryptors).find? (·.1.primary) <;> cases enabled <;>
      simp [planOf, primary, zippedLabels length]

theorem unstoredSealing {entry : Password} {error : ReconcileError}
    (long : CipherSuite.leastSecretBytes ≤ entry.secret.utf8ByteSize)
    (free : table.find? entry.label = none) (unstored : Unstored suite world table entry error) :
    ∃ cause, error = .sealing entry.label cause ∧
      ((cause = .noRandomness ∧ ∃ moment length, world.random moment length = none) ∨
        ∃ key nonce, suite.encrypt key nonce Canary.plaintext = .error cause) := by
  cases unstored with
  | saltless undrawn => exact ⟨_, rfl, .inl ⟨rfl, _, _, undrawn⟩⟩
  | underived salt refused => cases refused.symm.trans (CipherSuite.deriveLong long salt.2)
  | @unsealed key moment cause refused =>
    refine ⟨cause, rfl, ?_⟩
    cases drawn : world.random moment nonceLength with
    | none =>
      rw [drawn] at refused
      cases refused
      exact .inl ⟨rfl, _, _, drawn⟩
    | some nonce =>
      rw [drawn, CipherSuite.sealWith] at refused
      cases body : suite.encrypt key nonce.1 Canary.plaintext with
      | ok bytes =>
        rw [body] at refused
        cases refused
      | error other =>
        rw [body] at refused
        cases refused
        exact .inr ⟨key, nonce.1, body⟩
  | taken taken => cases free.symm.trans taken

theorem enrolmentStops {error : ReconcileError} (accepted : Password.Accepted entries)
    (alone : several table.rows = false)
    (salts : ∀ row ∈ table.rows, row.value.salt.length = saltLength)
    (found : vault.database.credentials = some table)
    (ran : encryptorsFor suite .save table.rows entries world vault = (.error error, after)) :
    (∃ entry cause, Unsealed suite world table.rows entries entry cause ∧
      error = .sealing entry.label cause) ∨
    ∃ entry, entries.find? (mismatched suite table.rows) = some entry ∧
      error = .canaryMismatch entry.label := by
  obtain ⟨earlier, entry, rest, rfl, opened, stops⟩ :=
    encryptorsForStops found accepted.distinct (fun _ _ absent => absent) ran
  have longOf : ∀ other ∈ earlier ++ entry :: rest,
      CipherSuite.leastSecretBytes ≤ other.secret.utf8ByteSize :=
    fun _ place => accepted.secretLong place
  have saltOf : ∀ {label : String} {row : Row Credential},
      table.rows.find? (·.id == label) = some row → row.value.salt.length = saltLength :=
    fun known => salts _ (List.mem_of_find?_eq_some known)
  have passed : ∀ other ∈ earlier, mismatched suite table.rows other = false := by
    intro other place
    cases known : table.rows.find? (·.id == other.label) with
    | none => simp only [mismatched, known]
    | some row =>
      rcases mismatchedKnown known (longOf other (List.mem_append_left _ place)) (saltOf known) with
        ⟨opens, _⟩ | ⟨_, refused⟩
      · exact opens
      · obtain ⟨_, opens⟩ := opened other place row known
        cases refused.symm.trans opens
  have long := longOf entry (List.mem_append_right _ List.mem_cons_self)
  rcases stops with ⟨row, known, refused⟩ | ⟨new, longer, free, unstored⟩
  · rcases mismatchedKnown known long (saltOf known) with ⟨_, _, opens⟩ | ⟨mismatch, told⟩
    · cases refused.symm.trans opens
    · cases refused.symm.trans told
      refine .inr ⟨entry, List.find?_eq_some_iff_append.2 ⟨mismatch, earlier, rest, rfl, ?_⟩, rfl⟩
      simpa using passed
  · obtain ⟨cause, rfl, broken⟩ := unstoredSealing long free unstored
    exact .inl ⟨entry, cause, ⟨alone, ⟨earlier, rest, rfl, passed⟩, new, broken⟩, rfl⟩

theorem decided {result : Except ReconcileError Reconciliation}
    (accepted : Password.Accepted settings.passwords)
    (found : vault.database.credentials = some table)
    (salts : ∀ row ∈ table.rows, row.value.salt.length = saltLength)
    (ran : reconcile suite settings.enabled settings.passwords world vault = (result, after)) :
    (∃ entry cause, Unsealed suite world table.rows settings.passwords entry cause ∧
      result = .error (.sealing entry.label cause)) ∨
    match refusal? suite settings.enabled table.rows settings.passwords with
    | some error => result = .error error
    | none => ∃ plan, result = .ok plan := by
  have sole : solePrimary? table.rows = _ := solePrimaryDecides
  cases alone : several table.rows with
  | true =>
    rw [alone, if_pos rfl] at sole
    rw [reconcile, reconcileWithSeveral _ _ _ found sole] at ran
    cases ran
    exact .inr (by simp only [refusal?, alone, ↓reduceIte])
  | false =>
    rw [alone, if_neg Bool.false_ne_true] at sole
    rw [reconcile, reconcileWithAlone _ _ _ found sole] at ran
    rcases Action.bindRan ran with ⟨encryptors, middle, enrolling, last⟩ | ⟨error, failed, rfl⟩
    · obtain ⟨_, _, enrolled, _, _⟩ := encryptorsForEnrolled found enrolling
      have matched : settings.passwords.find? (mismatched suite table.rows) = none := by
        refine List.find?_eq_none.2 fun entry place => ?_
        cases known : table.rows.find? (·.id == entry.label) with
        | none => simp [mismatched, known]
        | some row =>
          obtain ⟨key, text, derived, opened⟩ := enrolled.knownOpens place known
          rw [CipherSuite.derivedKey derived] at opened
          simp [mismatched, known, opened, Except.isOk, Except.toBool]
      obtain ⟨planned, _⟩ := Prod.mk.inj last
      rw [ofPolicyDecides enrolled.length] at planned
      refine .inr ?_
      simp only [refusal?, alone, Bool.false_eq_true, ↓reduceIte, matched]
      split at planned
      · exact planned.symm
      · exact ⟨_, planned.symm⟩
    · rcases enrolmentStops accepted alone salts found failed with
        ⟨entry, cause, unsealed, rfl⟩ | ⟨entry, mismatch, rfl⟩
      · exact .inl ⟨entry, cause, unsealed, rfl⟩
      · exact .inr (by simp only [refusal?, alone, Bool.false_eq_true, ↓reduceIte, mismatch])

theorem plannedFounded {longer : Table Credential} {sole : Option String}
    {new : List (Row Credential)} {encryptors : List Encryptor} {plan : Reconciliation}
    (founded : Founded suite world settings table longer sole new encryptors plan) :
    Planned suite table longer settings.passwords encryptors plan := by
  have primary := storedPrimaryIs founded.alone
  have changed : plan.changed = (plan.configuredPrimary != plan.storedPrimary) := by
    rw [founded.changed, founded.configuredPrimary, founded.storedPrimary]
  refine ⟨founded.held, founded.chosen, founded.configuredPrimary, ?_, changed, ?_, founded.stale⟩
  · rw [primary, founded.storedPrimary]
  · rw [founded.rotation, founded.changed, primary, ← primaryIsSome, plainReader]
    by_cases same : primaryLabel settings.passwords = sole.getD ""
    · simp [same]
    · cases found : settings.passwords.find? (·.primary) <;> simp [same]

theorem refusalTells {enabled : Bool} {error : ReconcileError}
    (refused : refusal? suite enabled stored entries = some error) (label : String)
    (cause : CipherError) : error ≠ .canary label cause := by
  rintro rfl
  unfold refusal? at refused
  split at refused
  · cases refused
  · split at refused
    · cases refused
    · cases dropped : dropped? (storedPrimary? stored) entries with
      | some other =>
        rw [dropped] at refused
        cases refused
        obtain ⟨_, _, wrong⟩ := Option.map_eq_some_iff.1 dropped
        cases wrong
      | none =>
        rw [dropped] at refused
        change misplaced? enabled entries = some _ at refused
        unfold misplaced? at refused
        split at refused <;> cases refused

/-- Reconciling follows the policy, unless a salt or a canary cannot be made for a new label. -/
theorem reconcilingFollowsPolicy {result : Except ReconcileError Reconciliation}
    (accepted : Password.Accepted settings.passwords)
    (found : vault.database.credentials = some table)
    (salts : ∀ row ∈ table.rows, row.value.salt.length = saltLength)
    (ran : reconcile suite settings.enabled settings.passwords world vault = (result, after)) :
    ((∃ entry cause, Unsealed suite world table.rows settings.passwords entry cause ∧
      result = .error (.sealing entry.label cause)) ∨
    match refusal? suite settings.enabled table.rows settings.passwords with
    | some error => result = .error error
    | none => ∃ plan longer encryptors, result = .ok plan ∧
      after.database.credentials = some longer ∧
      Planned suite table longer settings.passwords encryptors plan) ∧
    ∀ label cause, result ≠ .error (.canary label cause) := by
  rcases decided accepted found salts ran with ⟨entry, cause, unsealed, rfl⟩ | policy
  · exact ⟨.inl ⟨entry, cause, unsealed, rfl⟩, fun _ _ wrong => nomatch wrong⟩
  · cases refused : refusal? suite settings.enabled table.rows settings.passwords with
    | some error =>
      simp only [refused] at policy ⊢
      refine ⟨.inr policy, fun label cause wrong => ?_⟩
      exact refusalTells refused label cause (Except.error.inj (policy.symm.trans wrong))
    | none =>
      simp only [refused] at policy ⊢
      obtain ⟨plan, rfl⟩ := policy
      obtain ⟨before, longer, sole, new, encryptors, stored, founded, _, left⟩ :=
        reconcileFounded ran
      rw [found] at stored
      cases stored
      exact ⟨.inr ⟨plan, longer, encryptors, rfl, left, plannedFounded founded⟩,
        fun _ _ wrong => nomatch wrong⟩

end Policy

namespace SecondKey

open Reconciliation

theorem secondKeyFollowsPolicy : ∃ canary bytes others plan after,
    reconcile .standard settings.enabled settings.passwords world
      (.ofDatabase (database canary bytes others)) = (.ok plan, after) ∧
    plan.configuredPrimary = "latest" ∧ plan.storedPrimary = "former" ∧ plan.changed = true ∧
    plan.stale = ["retired"] := by
  obtain ⟨canary, bytes, others, serves⟩ := standardServes
  have found : (Vault.ofDatabase (database canary bytes others)).database.credentials =
      some (credentials canary) := rfl
  have salted : ∀ row ∈ (credentials canary).rows, row.value.salt.length = saltLength := by
    intro row place
    rcases List.mem_pair.1 place with rfl | rfl
    · exact List.length_replicate
    · exact salt.2
  obtain ⟨plan, after, ran⟩ := reconcileOk calm found rfl accepted.distinct formerSupplied rfl
    fun entry place => enrollable serves place
  rcases (Policy.reconcilingFollowsPolicy accepted found salted ran).1 with
    ⟨_, _, _, wrong⟩ | planned
  · cases wrong
  · split at planned
    · cases planned
    · obtain ⟨_, _, _, same, _, planned⟩ := planned
      cases same
      have latest : plan.configuredPrimary = "latest" := planned.configuredPrimary
      have former : plan.storedPrimary = "former" := planned.storedPrimary
      refine ⟨canary, bytes, others, plan, after, ran, latest, former, ?_, planned.stale⟩
      rw [planned.changed, latest, former]
      rfl

end SecondKey
end BrokerVault
