import BrokerVault.Url.Reader

/-! Requests to the platform and its answers, apart from how they travel. A request is refused
before it is sent if no server can be addressed by it. -/
namespace BrokerVault.Upgrade

inductive Method where
  | get
  | patch
  deriving DecidableEq, Repr

def Method.name : Method → String
  | .get => "GET"
  | .patch => "PATCH"

structure HttpRequest where
  method : Method
  url : Url
  authorization : String
  body : Option String
  deriving DecidableEq, Repr

structure HttpAnswer where
  status : Nat
  body : Bytes
  deriving DecidableEq, Repr

inductive RequestFault where
  | malformed
  | unusable (url : String)
  | unanswered (url : String)
  deriving DecidableEq, Repr

def RequestFault.message : RequestFault → String
  | .malformed => "builder error"
  | .unusable url => "builder error for url (" ++ url ++ ")"
  | .unanswered url => "error sending request for url (" ++ url ++ ")"

def isHeaderText (text : String) : Bool :=
  text.toList.all fun c => c == '\t' || (0x20 ≤ c.toNat && c.toNat != 0x7F)

-- Credentials are not sent as part of the address, if they read as texts.
def sentUrl (url : Url) : Url :=
  let decoded? (part : String) : Option String :=
    (Url.percentDecode (Bytes.ofText part)).toText?
  match decoded? url.username with
  | none => url
  | some username =>
    let password := if url.password.isEmpty then none else decoded? url.password
    if username.isEmpty ∧ password.isNone then url else url.withoutCredentials

def isSendable (url : Url) : Bool :=
  (match url.host with
    | some (.domain name) => name.toList.all fun c => !"\"`\x7b\x7d".contains c
    | _ => true)
    && url.text.utf8ByteSize < 65535

-- A fault of the header is found before one of the scheme.
def HttpRequest.of? (method : Method) (address authorization : String) (body : Option String) :
    Except RequestFault HttpRequest :=
  match Url.ofText? address with
  | .error _ => .error .malformed
  | .ok url =>
    if !url.hasHost then .error (.unusable url.text)
    else if !isHeaderText authorization then .error .malformed
    else
      let url := sentUrl url
      if (url.scheme = "http" ∨ url.scheme = "https") ∧ isSendable url then
        .ok ⟨method, url, authorization, body⟩
      else .error (.unusable url.text)

-- What requests travel on. Times are in nanoseconds.
structure Transport (m : Type → Type) where
  /-- Nothing if there was no answer until the given time. -/
  send : HttpRequest → (deadline : Option Nat) → m (Option (Except RequestFault HttpAnswer))
  now : m Nat
  sleep : (nanoseconds : Nat) → m Unit

def Transport.unreachable {m : Type → Type} [Monad m] : Transport m where
  send request _ := return some (.error (.unanswered request.url.text))
  now := return 0
  sleep _ := return

end BrokerVault.Upgrade
