import BrokerVault.Text.Blank
import BrokerVault.Text.Split
import BrokerVault.Upgrade.Exchange

/-! Requests and answers as they travel, in the form of HTTP/1.1. A connection carries one
request, and what comes back until its end is the answer. An answer that ends before its body does
is none. -/
namespace BrokerVault.Upgrade

namespace Wire

abbrev Headers := List (String × String)

def lines (texts : List String) : String := String.join (texts.map (· ++ "\r\n"))

def target (url : Url) : String :=
  let path := if url.pathText.isEmpty then "/" else url.pathText
  path ++ (match url.query with
    | some query => "?" ++ query
    | none => "")

def hostName (url : Url) : String :=
  (match url.host with
    | some host => host.text
    | none => "")
    ++ (match url.port with
      | some port => ":" ++ toString port
      | none => "")

def requestHead (request : HttpRequest) : String :=
  let plain :=
    [request.method.name ++ " " ++ target request.url ++ " HTTP/1.1",
      "Host: " ++ hostName request.url, "Authorization: " ++ Text.trim request.authorization,
      "Accept: */*", "Connection: close"]
  let ofBody :=
    match request.body with
    | some body => ["Content-Type: application/json", s!"Content-Length: {body.utf8ByteSize}"]
    | none => []
  lines (plain ++ ofBody ++ [""])

def requestBytes (request : HttpRequest) : Bytes :=
  Bytes.ofText (requestHead request ++ request.body.getD "")

def latin (bytes : Bytes) : List Char := bytes.map fun byte => Char.ofNat byte.toNat

def cutLine : Bytes → Option (Bytes × Bytes)
  | 13 :: 10 :: rest => some ([], rest)
  | byte :: rest => (cutLine rest).map fun (line, behind) => (byte :: line, behind)
  | [] => none

theorem cutLineShorter {bytes line rest : Bytes} (cut : cutLine bytes = some (line, rest)) :
    rest.length < bytes.length := by
  fun_induction cutLine bytes generalizing line with
  | case1 behind =>
    cases cut
    simp only [List.length_cons]
    omega
  | case2 byte behind _ ih =>
    obtain ⟨⟨before, tail⟩, found, same⟩ := Option.map_eq_some_iff.1 cut
    cases same
    have := ih found
    simp only [List.length_cons]
    omega
  | case3 => cases cut

def header? (line : List Char) : Option (String × String) :=
  match line.span (· != ':') with
  | (name, ':' :: value) =>
    some ((String.ofList name).toLower, Text.trim (String.ofList value))
  | _ => none

def headers? (bytes : Bytes) : Option (Headers × Bytes) :=
  match _cut : cutLine bytes with
  | none => none
  | some ([], rest) => some ([], rest)
  | some (line, rest) => do
    let header ← header? (latin line)
    let (others, behind) ← headers? rest
    some (header :: others, behind)
termination_by bytes.length
decreasing_by exact cutLineShorter _cut

def status? (line : Bytes) : Option Nat :=
  match Text.splitOn (· == ' ') (latin line) with
  | version :: code :: _ =>
    if (String.ofList version).startsWith "HTTP/1." ∧ code.length = 3 then
      (String.ofList code).toNat?
    else none
  | _ => none

def hexNumber? (digits : List Char) : Option Nat :=
  if digits.isEmpty then none
  else digits.foldlM (fun value digit => (Bytes.hexValue? digit).map (16 * value + ·)) 0

def chunks? (bytes : Bytes) : Option Bytes :=
  match _cut : cutLine bytes with
  | none => none
  | some (line, rest) => do
    let length ← hexNumber? (((latin line).takeWhile (· != ';')).filter (!Text.isBlank ·))
    if length = 0 then some []
    else if rest.length < length then none
    else
      match _closed : cutLine (rest.drop length) with
      | some ([], following) => do
        let others ← chunks? following
        some (rest.take length ++ others)
      | _ => none
termination_by bytes.length
decreasing_by
  have := cutLineShorter _cut
  have := cutLineShorter _closed
  simp only [List.length_drop] at this
  omega

def body? (headers : Headers) (bytes : Bytes) : Option Bytes :=
  if (headers.lookup "transfer-encoding").any (·.toLower.endsWith "chunked") then chunks? bytes
  else
    match headers.lookup "content-length" with
    | none => some bytes
    | some length => do
      let length ← length.toNat?
      if bytes.length < length then none else some (bytes.take length)

-- Answers whose status begins with 1 only announce another one.
def answer? : (fuel : Nat) → Bytes → Option HttpAnswer
  | 0, _ => none
  | fuel + 1, bytes => do
    let (first, rest) ← cutLine bytes
    let status ← status? first
    let (headers, behind) ← headers? rest
    if status / 100 = 1 then answer? fuel behind
    else if status = 204 ∨ status = 304 then some ⟨status, []⟩
    else
      let body ← body? headers behind
      some ⟨status, body⟩

end Wire

def HttpAnswer.ofBytes? (bytes : Bytes) : Option HttpAnswer := Wire.answer? bytes.length bytes

end BrokerVault.Upgrade
