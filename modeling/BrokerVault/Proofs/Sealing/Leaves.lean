import BrokerVault.Proofs.Sealing.Columns

/-! Nested encryptors as the sequence of their leaves. A value is opened by the first leaf that opens
it, in the order in which the decryptors stand, and sealed by the one leaf behind the encrypting
sides. A compound without decryptors is a leaf that opens nothing. -/
namespace BrokerVault.Encryptor

theorem nestedInduction {motive : Encryptor → Prop}
    (aead : ∀ label key, motive (.aead label key)) (noop : motive .noop)
    (compound : ∀ encryptor decryptors, (∀ decryptor ∈ decryptors, motive decryptor) →
      motive (.compound encryptor decryptors)) : (encryptor : Encryptor) → motive encryptor
  | .aead label key => aead label key
  | .noop => noop
  | .compound encryptor decryptors => compound encryptor decryptors fun decryptor _ =>
    nestedInduction aead noop compound decryptor

def sealer : Encryptor → Encryptor
  | .compound encryptor _ => encryptor.sealer
  | .aead label key => .aead label key
  | .noop => .noop

mutual

def openers : Encryptor → List Encryptor
  | .compound encryptor [] => [.compound encryptor []]
  | .compound _ (first :: rest) => first.openers ++ openersOf rest
  | .aead label key => [.aead label key]
  | .noop => [.noop]

def openersOf : List Encryptor → List Encryptor
  | [] => []
  | first :: rest => first.openers ++ openersOf rest

end

inductive Searched {α : Type} (answer : Encryptor → Except CipherError α) :
    List Encryptor → Except CipherError α → Prop where
  | found {before leaf after plaintext}
      (rejected : ∀ earlier ∈ before, ∃ error, answer earlier = .error error)
      (accepted : answer leaf = .ok plaintext) :
      Searched answer (before ++ leaf :: after) (.ok plaintext)
  | exhausted {before last error}
      (rejected : ∀ earlier ∈ before, ∃ error, answer earlier = .error error)
      (refused : answer last = .error error) : Searched answer (before ++ [last]) (.error error)

mutual

def withSealers : Encryptor → (other : Encryptor) → Encryptor
  | .compound _ decryptors, other => .compound other (withSealersIn decryptors other)
  | .aead label key, _ => .aead label key
  | .noop, _ => .noop

def withSealersIn : List Encryptor → (other : Encryptor) → List Encryptor
  | [], _ => []
  | first :: rest, other => first.withSealers other :: withSealersIn rest other

end

def withOpeners (others : List Encryptor) : Encryptor → Encryptor
  | .compound encryptor _ => .compound (encryptor.withOpeners others) others
  | .aead label key => .aead label key
  | .noop => .noop

structure ActsAsLeaves (suite : CipherSuite) (encryptor : Encryptor) : Prop where
  leaves : ∀ leaf ∈ encryptor.openers, leaf.IsLeaf ∨
    (∃ side, leaf = .compound side []) ∧ (∀ value, leaf.decrypt suite value = .error .rejected) ∧
      ∀ text, leaf.decryptText suite text = .error .rejected
  decrypts : ∀ value, Searched (fun leaf => leaf.decrypt suite value) encryptor.openers
    (encryptor.decrypt suite value)
  decryptsText : ∀ text, Searched (fun leaf => leaf.decryptText suite text) encryptor.openers
    (encryptor.decryptText suite text)
  anySealers : ∀ other, (∀ value,
      (encryptor.withSealers other).decrypt suite value = encryptor.decrypt suite value) ∧
    ∀ text, (encryptor.withSealers other).decryptText suite text = encryptor.decryptText suite text
  sealerLeaf : encryptor.sealer.IsLeaf
  encrypts : ∀ nonce plaintext,
    encryptor.encrypt suite nonce plaintext = encryptor.sealer.encrypt suite nonce plaintext
  encryptsText : ∀ nonce plaintext,
    encryptor.encryptText suite nonce plaintext = encryptor.sealer.encryptText suite nonce plaintext
  anyOpeners : ∀ others nonce plaintext,
    (encryptor.withOpeners others).encrypt suite nonce plaintext =
      encryptor.encrypt suite nonce plaintext ∧
    (encryptor.withOpeners others).encryptText suite nonce plaintext =
      encryptor.encryptText suite nonce plaintext

variable {α : Type} {answer : Encryptor → Except CipherError α} {action : LeafAction α}
  {suite : CipherSuite}

theorem openersOfEach (decryptors : List Encryptor) :
    openersOf decryptors = decryptors.flatMap openers := by
  induction decryptors with
  | nil => rw [openersOf, List.flatMap_nil]
  | cons first rest ih => rw [openersOf, ih, List.flatMap_cons]

theorem openersCompound (encryptor : Encryptor) {decryptors : List Encryptor}
    (filled : decryptors ≠ []) :
    (compound encryptor decryptors).openers = decryptors.flatMap openers := by
  cases decryptors with
  | nil => exact (filled rfl).elim
  | cons first rest => rw [openers, openersOfEach, List.flatMap_cons]

theorem openersCases (encryptor : Encryptor) : ∀ leaf ∈ encryptor.openers,
    leaf.IsLeaf ∨ ∃ side, leaf = .compound side [] := by
  induction encryptor using nestedInduction with
  | aead label key =>
    rw [openers, List.forall_mem_singleton]
    exact .inl trivial
  | noop =>
    rw [openers, List.forall_mem_singleton]
    exact .inl trivial
  | compound encryptor decryptors each =>
    cases decryptors with
    | nil =>
      rw [openers, List.forall_mem_singleton]
      exact .inr ⟨encryptor, rfl⟩
    | cons first rest =>
      rw [openersCompound encryptor (List.cons_ne_nil first rest)]
      intro leaf place
      obtain ⟨decryptor, among, place⟩ := List.mem_flatMap.1 place
      exact each decryptor among leaf place

theorem Searched.single (leaf : Encryptor) : Searched answer [leaf] (answer leaf) := by
  have none : ∀ earlier ∈ ([] : List Encryptor), ∃ error, answer earlier = .error error := nofun
  cases told : answer leaf with
  | ok plaintext =>
    show Searched answer ([] ++ leaf :: []) (.ok plaintext)
    exact .found none told
  | error error =>
    show Searched answer ([] ++ [leaf]) (.error error)
    exact .exhausted none told

theorem Searched.ahead {leaves : List Encryptor} {plaintext : α}
    (searched : Searched answer leaves (.ok plaintext)) (behind : List Encryptor) :
    Searched answer (leaves ++ behind) (.ok plaintext) := by
  cases searched with
  | found rejected accepted =>
    rw [List.append_assoc]
    exact .found rejected accepted

theorem Searched.rejects {leaves : List Encryptor} {error : CipherError}
    (searched : Searched answer leaves (.error error)) :
    ∀ leaf ∈ leaves, ∃ error, answer leaf = .error error := by
  cases searched with
  | exhausted rejected refused =>
    exact List.forall_mem_append.2 ⟨rejected, List.forall_mem_singleton.2 ⟨_, refused⟩⟩

theorem Searched.behind {leaves passed : List Encryptor} {result : Except CipherError α}
    (searched : Searched answer leaves result)
    (rejected : ∀ leaf ∈ passed, ∃ error, answer leaf = .error error) :
    Searched answer (passed ++ leaves) result := by
  cases searched with
  | found rejectedAlso accepted =>
    rw [← List.append_assoc]
    exact .found (List.forall_mem_append.2 ⟨rejected, rejectedAlso⟩) accepted
  | exhausted rejectedAlso refused =>
    rw [← List.append_assoc]
    exact .exhausted (List.forall_mem_append.2 ⟨rejected, rejectedAlso⟩) refused

theorem acceptedFirst {before after : List Encryptor} {leaf : Encryptor} {opened : α}
    (rejected : ∀ earlier ∈ before, ∃ error, answer earlier = .error error)
    (accepted : answer leaf = .ok opened) :
    (before ++ leaf :: after).find? (fun leaf => (answer leaf).isOk) = some leaf := by
  refine List.find?_eq_some_iff_append.2 ⟨by rw [accepted]; rfl, before, after, rfl, ?_⟩
  intro earlier place
  obtain ⟨error, refused⟩ := rejected earlier place
  rw [refused]
  rfl

theorem Searched.first {leaves before after : List Encryptor} {leaf : Encryptor}
    {result : Except CipherError α} {opened : α} (searched : Searched answer leaves result)
    (order : leaves = before ++ leaf :: after)
    (rejected : ∀ earlier ∈ before, ∃ error, answer earlier = .error error)
    (accepted : answer leaf = .ok opened) : result = .ok opened := by
  have chosen : leaves.find? (fun leaf => (answer leaf).isOk) = some leaf :=
    order ▸ acceptedFirst rejected accepted
  cases searched with
  | found rejectedAlso acceptedAlso =>
    rw [acceptedFirst rejectedAlso acceptedAlso] at chosen
    cases chosen
    exact acceptedAlso.symm.trans accepted
  | exhausted rejectedAlso refused =>
    have place := List.mem_of_find?_eq_some chosen
    obtain ⟨error, unopened⟩ := (Searched.exhausted rejectedAlso refused).rejects leaf place
    cases accepted.symm.trans unopened

theorem openingFirstSearched (last : CipherError) {decryptors : List Encryptor}
    (filled : decryptors ≠ []) (each : ∀ decryptor ∈ decryptors,
      Searched (opening action) decryptor.openers (decryptor.opening action)) :
    Searched (opening action) (decryptors.flatMap openers) (openingFirst action last decryptors) := by
  induction decryptors generalizing last with
  | nil => exact (filled rfl).elim
  | cons first rest ih =>
    obtain ⟨head, each⟩ := List.forall_mem_cons.1 each
    rw [List.flatMap_cons, openingFirst]
    cases told : first.opening action with
    | ok plaintext => exact (told ▸ head).ahead _
    | error error =>
      rw [told] at head
      -- The error of a decryptor is the answer only where nothing stands behind it.
      cases rest with
      | nil => rwa [List.flatMap_nil, List.append_nil]
      | cons second others =>
        have further := ih error (List.cons_ne_nil second others) each
        exact further.behind head.rejects

theorem openingSearched (action : LeafAction α) (encryptor : Encryptor) :
    Searched (opening action) encryptor.openers (encryptor.opening action) := by
  induction encryptor using nestedInduction with
  | aead label key => exact .single (.aead label key)
  | noop => exact .single .noop
  | compound encryptor decryptors each =>
    cases decryptors with
    | nil => exact .single (.compound encryptor [])
    | cons first rest =>
      have filled := List.cons_ne_nil first rest
      rw [openersCompound encryptor filled]
      exact openingFirstSearched .rejected filled each

theorem withSealersEach (decryptors : List Encryptor) (other : Encryptor) :
    withSealersIn decryptors other = decryptors.map (·.withSealers other) := by
  induction decryptors with
  | nil => rw [withSealersIn, List.map_nil]
  | cons first rest ih => rw [withSealersIn, ih, List.map_cons]

theorem openingAnySealers (action : LeafAction α) (encryptor other : Encryptor) :
    (encryptor.withSealers other).opening action = encryptor.opening action := by
  induction encryptor using nestedInduction with
  | aead label key => rfl
  | noop => rfl
  | compound encryptor decryptors each =>
    rw [withSealers, withSealersEach, opening, opening]
    refine openingFirstSame (List.forall₂_map_left_iff.2 (List.forall₂_same.2 each)) .rejected

theorem sealingSealer (action : LeafAction α) :
    (encryptor : Encryptor) → encryptor.sealing action = encryptor.sealer.sealing action
  | .compound encryptor _ => sealingSealer action encryptor
  | .aead _ _ | .noop => rfl

theorem sealSealer (suite : CipherSuite) (encryptor : Encryptor) (format : ColumnFormat)
    (nonce : Option (BytesOf nonceLength)) (plaintext : Bytes) :
    encryptor.sealColumn suite format nonce plaintext =
      encryptor.sealer.sealColumn suite format nonce plaintext := by
  cases format <;> rw [sealColumn, sealColumn]
  · rw [encrypt, sealingSealer]
    rfl
  · rw [encryptText, sealingSealer]
    rfl

theorem sealerCases (encryptor : Encryptor) :
    encryptor.sealer = .noop ∨ ∃ label key, encryptor.sealer = .aead label key := by
  match encryptor with
  | .compound encryptor _ => exact sealerCases encryptor
  | .aead label key => exact .inr ⟨label, key, rfl⟩
  | .noop => exact .inl rfl

theorem sealerLeaf (encryptor : Encryptor) : encryptor.sealer.IsLeaf := by
  rcases encryptor.sealerCases with plain | ⟨label, key, keyed⟩
  · exact plain ▸ trivial
  · exact keyed ▸ trivial

theorem sealingAnyOpeners (action : LeafAction α) (others : List Encryptor) :
    (encryptor : Encryptor) → (encryptor.withOpeners others).sealing action = encryptor.sealing action
  | .compound encryptor _ => sealingAnyOpeners action others encryptor
  | .aead _ _ | .noop => rfl

/-- However encryptors are nested, opening is a search through the leaves of the decryptors, and
sealing is done by one leaf. -/
theorem nestedActsAsLeaves (suite : CipherSuite) (encryptor : Encryptor) :
    ActsAsLeaves suite encryptor where
  leaves leaf place := (openersCases encryptor leaf place).imp_right fun ⟨side, same⟩ =>
    ⟨⟨side, same⟩, fun _ => same ▸ rfl, fun _ => same ▸ rfl⟩
  decrypts _ := openingSearched _ encryptor
  decryptsText _ := openingSearched _ encryptor
  anySealers other := ⟨fun _ => openingAnySealers _ encryptor other,
    fun _ => openingAnySealers _ encryptor other⟩
  sealerLeaf := encryptor.sealerLeaf
  encrypts _ _ := sealingSealer _ encryptor
  encryptsText _ _ := sealingSealer _ encryptor
  anyOpeners others _ _ := ⟨sealingAnyOpeners _ others encryptor, sealingAnyOpeners _ others encryptor⟩

end BrokerVault.Encryptor
