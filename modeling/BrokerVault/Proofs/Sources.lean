import BrokerVault.Proofs.Json.Shapes
import BrokerVault.Settings

/-! The ways to give a password list: as the text of an option, as a string in a configuration file,
or there as the list itself. As long as no object in the list repeats a name, the settings are the
same whichever way it comes. -/
namespace BrokerVault.Password

theorem listFaithful : listShape.Faithful := by
  have secret : secretShape.Faithful :=
    Json.Shape.recordFaithful (.field Json.Shape.stringFaithful .none) _ _
  exact Json.Shape.listFaithful <| Json.Shape.recordFaithful
    (.field Json.Shape.stringFaithful <| .field Json.Shape.boolFaithful <| .field secret .none) _ _

inductive Alike : Except PasswordError (List Password) → Except PasswordError (List Password) →
    Prop where
  | read (entries : List Password) : Alike (validated entries) (validated entries)
  | unread (reading decoding : Json.Error) :
      Alike (.error (.syntaxError reading)) (.error (.syntaxError decoding))

theorem emptyRefused : Json.ofText? "" = (Json.Cursor.start []).faultPeeking .endInValue := by
  have ended : Json.readValue Json.greatestDepth (.start (.ofText "")) =
      (Json.Cursor.start []).faultPeeking .endInValue := Json.readValueOver _ rfl
  rw [Json.ofText?, Json.ofBytes?, ended]
  rfl

theorem sourcesAlike {text : String} {items : List Json}
    (decoded : Json.ofText? text = .ok (.array items)) (distinct : Json.NamesDistinct text) :
    Alike (ofText? text) (ofJson? (.array items)) := by
  obtain ⟨spelling, spelled, distinct⟩ := distinct
  have value : spelling.value = .array items := by
    rw [Json.ofTextSpelling, spelled] at decoded
    exact Except.ok.inj decoded
  have filled : ¬ text.isEmpty = true := by
    intro empty
    rw [String.isEmpty_iff.1 empty, emptyRefused] at decoded
    cases decoded
  rw [ofText?, if_neg filled, ofJson?, Json.Shape.ofText?, Json.Shape.ofBytes?]
  obtain ⟨after, read, ends⟩ := Json.spelledWhole spelled
  have agree := listFaithful read distinct
  rw [value] at agree
  generalize listShape.decode (.array items) = decoding at agree ⊢
  generalize listShape.read Json.greatestDepth (.start (.ofText text)) = reading at agree ⊢
  cases agree with
  | same entries =>
    simp only [bind, Except.bind, ends]
    exact .read entries
  | neither decoding reading => exact .unread reading decoding

end BrokerVault.Password

namespace BrokerVault.Settings

def withPasswords (file : Option ConfigFile) (keys : Json) : ConfigFile :=
  ⟨⟨file.bind (·.encryption.enabled), keys⟩⟩

inductive SameOutcome : Except ConfigError Settings → Except ConfigError Settings → Prop where
  | accepted (settings : Settings) : SameOutcome (.ok settings) (.ok settings)
  | invalid (faults : List FieldFault) :
      SameOutcome (.error (.password (.invalid faults))) (.error (.password (.invalid faults)))
  | unread (first second : Json.Error) :
      SameOutcome (.error (.password (.syntaxError first))) (.error (.password (.syntaxError second)))

def settled (enabled : Option Bool) (file : Option ConfigFile)
    (found : Except PasswordError (List Password)) : Except ConfigError Settings :=
  match found with
  | .ok passwords =>
    .ok ⟨(enabled <|> (file.map (·.encryption)).bind (·.enabled)).getD false, passwords⟩
  | .error error => .error (.password error)

variable (enabled : Option Bool) (file : Option ConfigFile)

theorem resolveGiven (text : String) :
    resolve enabled (some text) file = settled enabled file (Password.ofText? text) := rfl

theorem resolveWritten (keys : Json) :
    resolve enabled none (some (withPasswords file keys)) =
      settled enabled file (Password.ofJson? keys) := by
  cases file <;> rfl

theorem givenHides (given : String) (keys : Json) :
    resolve enabled (some given) (some (withPasswords file keys)) =
      resolve enabled (some given) file := by
  cases file <;> rfl

theorem stringStandsFor (text : String) :
    resolve enabled none (some (withPasswords file (.string text))) =
      resolve enabled (some text) file := by
  rw [resolveWritten, resolveGiven, Password.ofJson?]

theorem arrayStandsFor {text : String} {items : List Json}
    (decoded : Json.ofText? text = .ok (.array items)) (distinct : Json.NamesDistinct text) :
    SameOutcome (resolve enabled (some text) file)
      (resolve enabled none (some (withPasswords file (.array items)))) := by
  have alike := Password.sourcesAlike decoded distinct
  rw [resolveGiven, resolveWritten]
  generalize Password.ofText? text = reading at alike ⊢
  generalize Password.ofJson? (.array items) = decoding at alike ⊢
  cases alike with
  | unread reading decoding => exact .unread reading decoding
  | read entries =>
    rw [Password.validated]
    cases Password.faults entries with
    | nil => exact .accepted _
    | cons first others => exact .invalid _

/-- The ways to give a password list agree, and an option hides what the file says. -/
theorem sourcesAgree :
    (∀ text, resolve enabled none (some (withPasswords file (.string text))) =
      resolve enabled (some text) file) ∧
    (∀ text items, Json.ofText? text = .ok (.array items) → Json.NamesDistinct text →
      SameOutcome (resolve enabled (some text) file)
        (resolve enabled none (some (withPasswords file (.array items))))) ∧
    ∀ given keys, resolve enabled (some given) (some (withPasswords file keys)) =
      resolve enabled (some given) file :=
  ⟨stringStandsFor enabled file, fun _ _ => arrayStandsFor enabled file, givenHides enabled file⟩

end BrokerVault.Settings

namespace BrokerVault.MixedList

def text : String :=
  "[\x7b\"primary\": true, \"note\": [null, \x7b\x7d], \"l\\u0061bel\": \"current\", "
    ++ "\"password\": \x7b\"secret\": \"the secret of today\\u0021\"\x7d\x7d, "
    ++ "[\"older\", false, [\"the secret of before\"]]]"

def file : Option ConfigFile := some ⟨⟨some true, .bool false⟩⟩

def isArray : Except Json.Error Json → Bool
  | .ok (.array _) => true
  | _ => false

theorem arrayRead : ∃ items, Json.ofText? text = .ok (.array items) := by
  have array : isArray (Json.ofText? text) = true := by decide +kernel
  generalize Json.ofText? text = read at array ⊢
  rcases read with error | _ | _ | _ | _ | items | _
  all_goals first | exact ⟨items, rfl⟩ | cases array

theorem mixedListAgrees :
    Settings.resolve none (some text) file = .ok ⟨true,
      [⟨"current", "the secret of today!", true⟩, ⟨"older", "the secret of before", false⟩]⟩ ∧
    Json.NamesDistinct text ∧
    ∃ items, Json.ofText? text = .ok (.array items) ∧
      Settings.SameOutcome (Settings.resolve none (some text) file)
        (Settings.resolve none none (some (Settings.withPasswords file (.array items)))) := by
  have distinct : Json.NamesDistinct text := by decide +kernel
  obtain ⟨items, read⟩ := arrayRead
  have agree := (Settings.sourcesAgree none file).2.1 text items read distinct
  refine ⟨?_, distinct, items, read, agree⟩
  decide +kernel

end BrokerVault.MixedList
