import BrokerVault.Password.Reader

/-! Encryption settings: whether values are to be sealed, and under which passwords. Both come from
options, failing those from a configuration file, and failing that they are "no" and "none". -/
namespace BrokerVault

structure EncryptionSection where
  enabled : Option Bool
  passwords : Json

def EncryptionSection.empty : EncryptionSection := ⟨none, .null⟩

def EncryptionSection.shape : Json.Shape EncryptionSection :=
  .record "EncryptionSection"
    (.field "enabled" (.optional .bool) (.fromObject none) <|
      .field "keys" .any (.default .null) .none)
    fun (enabled, passwords, _) => ⟨enabled, passwords⟩

inductive FileFault where
  | missing
  | notText
  | other (detail : String)
  deriving DecidableEq, Repr

def FileFault.message : FileFault → String
  | .missing => "No such file or directory (os error 2)"
  | .notText => "stream did not contain valid UTF-8"
  | .other detail => detail

inductive ConfigError where
  | unreadable (path : String) (fault : FileFault)
  | syntaxError (path : String) (error : Json.Error)
  | password (error : PasswordError)
  deriving DecidableEq, Repr

def ConfigError.message : ConfigError → String
  | .unreadable path fault => s!"cannot read config file {path}: " ++ fault.message
  | .syntaxError path error => s!"cannot parse config file {path}: " ++ error.message
  | .password error => error.message

structure ConfigFile where
  encryption : EncryptionSection

namespace ConfigFile

def shape : Json.Shape ConfigFile :=
  .record "ConfigFile"
    (.field "encryption" EncryptionSection.shape (.default .empty) .none)
    fun (encryption, _) => ⟨encryption⟩

def ofText? (path text : String) : Except ConfigError ConfigFile :=
  match shape.ofText? text with
  | .ok file => .ok file
  | .error error => .error (.syntaxError path error)

def ofContents? (path : String) (contents : Except FileFault Bytes) :
    Except ConfigError ConfigFile :=
  match contents with
  | .error fault => .error (.unreadable path fault)
  | .ok bytes =>
    match bytes.toText? with
    | some text => ofText? path text
    | none => .error (.unreadable path .notText)

end ConfigFile

structure Settings where
  enabled : Bool
  passwords : List Password
  deriving DecidableEq, Repr

/-- An option that is given hides what the file says; a list in the file is read only if it is
needed. -/
def Settings.resolve (enabled : Option Bool) (passwords : Option String)
    (file : Option ConfigFile) : Except ConfigError Settings :=
  let fromFile := file.map (·.encryption)
  let enabled := (enabled <|> fromFile.bind (·.enabled)).getD false
  let found :=
    match passwords, fromFile with
    | some text, _ => Password.ofText? text
    | none, some fileSection => Password.ofJson? fileSection.passwords
    | none, none => .ok []
  match found with
  | .ok passwords => .ok ⟨enabled, passwords⟩
  | .error error => .error (.password error)

end BrokerVault
