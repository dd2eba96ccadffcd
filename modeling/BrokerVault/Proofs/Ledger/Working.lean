import BrokerVault.Proofs.Ledger.Journal
import BrokerVault.Proofs.Reconciliation
import BrokerVault.Proofs.Rewriting.Cut
import BrokerVault.Setup

/-! What a run does to the stored credentials, told as a journal of the three operations on them. An
action keeps a journal when each of its runs is made of such operations and of steps that leave the
credentials alone; actions built from others keep one where their parts do. -/
namespace BrokerVault.Ledger

open Reconciliation

/-- From one vault to another by operations on the credentials, which the journal lists, and by
whatever else leaves the credentials as they are. -/
inductive Works : Vault → List Entry → Vault → Prop where
  | done {vault} : Works vault [] vault
  | saved {world vault middle after journal label salt canary}
      (ran : Credentials.saveNew label salt canary world vault = (.ok (), middle))
      (rest : Works middle journal after) :
      Works vault (.saved ⟨label, salt, canary, world.clock vault.moment⟩ :: journal) after
  | promoted {world vault middle after journal name}
      (ran : Credentials.updatePrimary name world vault = (.ok (), middle))
      (rest : Works middle journal after) :
      Works vault (.promoted (Credentials.labelNamed name) :: journal) after
  | removed {world vault middle after journal labels}
      (ran : Credentials.deleteByLabels labels world vault = (.ok (), middle))
      (rest : Works middle journal after) : Works vault (.removed labels :: journal) after
  | elsewhere {vault middle after journal}
      (same : middle.database.credentials = vault.database.credentials)
      (rest : Works middle journal after) : Works vault journal after

variable {ε α : Type} {vault middle after : Vault} {journal more : List Entry}

theorem Works.trans (first : Works vault journal middle) (second : Works middle more after) :
    Works vault (journal ++ more) after := by
  induction first with
  | done => exact second
  | saved ran _ ih => exact .saved ran (ih second)
  | promoted ran _ ih => exact .promoted ran (ih second)
  | removed ran _ ih => exact .removed ran (ih second)
  | elsewhere same _ ih => exact .elsewhere same (ih second)

theorem worksSteady : Action.Steady fun vault after => ∃ journal, Works vault journal after where
  looking _ _ := by
    refine ⟨[], .elsewhere ?_ .done⟩
    rfl
  trans := by
    rintro _ _ _ ⟨journal, first⟩ ⟨more, second⟩
    exact ⟨journal ++ more, first.trans second⟩

/-! Runs that are put together stand in every steady relation in which their parts do. -/

section Composed

variable {relation : Vault → Vault → Prop} (steady : Action.Steady relation) (suite : CipherSuite)
  (saving : ∀ label (salt : BytesOf saltLength) canary,
    Action.Within relation (Credentials.saveNew label salt.1 canary))
include steady

theorem verifyAllWithin (encryptor : Encryptor) :
    Action.Within relation (verifyAll suite encryptor) := steady.still fun _ _ => rfl

include saving

theorem newEncryptorWithin (mode : Mode) (entry : Password) :
    Action.Within relation (newEncryptor suite mode entry) := by
  refine steady.bind (steady.random saltLength) fun drawn => ?_
  cases drawn with
  | none => exact steady.fail _
  | some salt =>
    refine steady.bind (steady.ofExcept _) fun encryptor => ?_
    cases mode with
    | preview => exact steady.pure encryptor
    | save =>
      have sealing : Action.Within relation (Canary.sealFor suite encryptor) :=
        steady.bind (steady.random nonceLength) fun _ => steady.ofExcept _
      exact steady.bind (sealing.mapError _) fun canary =>
        steady.bind ((saving _ salt canary).mapError _) fun _ => steady.pure encryptor

theorem reconcilingWithin (mode : Mode) (enabled : Bool) (entries : List Password) :
    Action.Within relation (reconcileWith suite mode enabled entries) :=
  reconcileWithin steady (newEncryptorWithin steady suite saving mode) enabled entries

theorem checkWithin (settings : Settings) : Action.Within relation (Check.run suite settings) :=
  steady.bind ((reconcilingWithin steady suite saving .preview _ _).mapError _) fun _ =>
    (verifyAllWithin steady suite _).mapError _

theorem setupWithin
    (rewriting : ∀ encryptor, Action.Within relation (Reencryption.rewriteAll suite encryptor))
    (promoting : ∀ name, Action.Within relation (Credentials.updatePrimary name))
    (removing : ∀ labels, Action.Within relation (Credentials.deleteByLabels labels))
    (settings : Settings) : Action.Within relation (Setup.run suite settings) := by
  refine steady.bind ((reconcilingWithin steady suite saving .save _ _).mapError _) fun plan => ?_
  have finish (rotated : Option Nat) : Action.Within relation (do
      let unreadable ← Action.mapError SetupError.checking (verifyAll suite plan.encryptor)
      let deleted ← Setup.removeStale plan unreadable
      return (⟨plan.encryptor, plan, rotated, unreadable, deleted⟩ : Setup)) := by
    refine steady.bind ((verifyAllWithin steady suite _).mapError _) fun unreadable =>
      steady.bind ?_ fun _ => steady.pure _
    rw [Setup.removeStale]
    split
    · exact steady.bind ((removing _).mapError _) fun _ => steady.pure _
    · exact steady.pure _
  have rotate (rotation : Encryptor) :
      Action.Within relation (Setup.rotate suite plan rotation) := by
    refine steady.bind ((verifyAllWithin steady suite rotation).mapError _) fun unreadable => ?_
    split
    · exact steady.bind ((rewriting rotation).mapError _) fun rewritten =>
        steady.bind ((promoting _).mapError _) fun _ => steady.pure rewritten
    · exact steady.fail _
  cases plan.rotation with
  | none => exact steady.bind (steady.pure none) finish
  | some rotation =>
    exact steady.bind (rotate rotation) fun _ => steady.bind (steady.pure _) finish

end Composed

def Journals (action : Action ε α) : Prop :=
  Action.Within (fun vault after => ∃ journal, Works vault journal after) action

namespace Journals

theorem unchanged {action : Action ε α} (same : ∀ world vault,
    (action world vault).2.database.credentials = vault.database.credentials) : Journals action :=
  fun world vault => ⟨[], .elsewhere (same world vault) .done⟩

theorem saveNew (label : String) (salt canary : Bytes) :
    Journals (Credentials.saveNew label salt canary) := by
  intro world vault
  cases ran : Credentials.saveNew label salt canary world vault with
  | mk result after =>
    cases result with
    | ok => exact ⟨_, .saved ran .done⟩
    | error error =>
      refine ⟨[], .elsewhere ?_ .done⟩
      rw [Credentials.saveNewFails ran]

theorem updatePrimary (name : String) : Journals (Credentials.updatePrimary name) := by
  intro world vault
  cases ran : Credentials.updatePrimary name world vault with
  | mk result after =>
    cases result with
    | ok => exact ⟨_, .promoted ran .done⟩
    | error error =>
      refine ⟨[], .elsewhere ?_ .done⟩
      rw [Credentials.updatePrimaryFails ran]

theorem deleteByLabels (labels : List String) : Journals (Credentials.deleteByLabels labels) := by
  intro world vault
  cases ran : Credentials.deleteByLabels labels world vault with
  | mk result after =>
    cases result with
    | ok => exact ⟨_, .removed ran .done⟩
    | error error =>
      refine ⟨[], .elsewhere ?_ .done⟩
      rw [Credentials.deleteByLabelsFails ran]

variable (suite : CipherSuite)

theorem reconcileWith (mode : Mode) (enabled : Bool) (entries : List Password) :
    Journals (reconcileWith suite mode enabled entries) :=
  reconcilingWithin worksSteady suite (fun label salt => saveNew label salt.1) mode enabled entries

theorem setup (settings : Settings) : Journals (Setup.run suite settings) :=
  setupWithin worksSteady suite (fun label salt => saveNew label salt.1)
    (fun _ => unchanged fun _ _ => (Reencryption.rewriteAllTouched rfl).1) updatePrimary
    deleteByLabels settings

end Journals
end BrokerVault.Ledger
