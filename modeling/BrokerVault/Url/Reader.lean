import BrokerVault.Text.Blank
import BrokerVault.Text.Split
import BrokerVault.Url.Basic

/-! Reading a URL as browsers do: blanks around it and line ends in it are dropped, a backslash is a
slash where the scheme has rules of its own, `.` and `..` are resolved, and what may not stand in a
part is percent-encoded. Only a host, a port or a missing scheme can be wrong. -/
namespace BrokerVault.Url

def defaultPorts : List (String × Nat) :=
  [("http", 80), ("https", 443), ("ws", 80), ("wss", 443), ("ftp", 21)]

def isSpecial (scheme : String) : Bool := scheme == "file" || (defaultPorts.lookup scheme).isSome

def isLetter (c : Char) : Bool := ('a' ≤ c && c ≤ 'z') || ('A' ≤ c && c ≤ 'Z')
def isDigit (c : Char) : Bool := '0' ≤ c && c ≤ '9'

def isSchemeChar (c : Char) : Bool := isLetter c || isDigit c || "+-.".contains c

def cleaned (text : List Char) : List Char :=
  let outer (c : Char) : Bool := c.toNat ≤ 0x20
  (Text.dropEndWhile outer (text.dropWhile outer)).filter fun c => !"\t\n\r".contains c

def readScheme? (text : List Char) : Option (String × List Char) :=
  let name := text.takeWhile isSchemeChar
  match name.head?, text.dropWhile isSchemeChar with
  | some first, ':' :: rest =>
    if isLetter first then some (String.ofList (name.map Char.toLower), rest) else none
  | _, _ => none

def isSlash (special : Bool) (c : Char) : Bool := c == '/' || (special && c == '\\')

def endsAuthority (special : Bool) (c : Char) : Bool := isSlash special c || c == '?' || c == '#'

def endsPath (c : Char) : Bool := c == '?' || c == '#'

structure Credentials where
  username : String
  password : String

def Credentials.none : Credentials := ⟨"", ""⟩

def Credentials.ofText (text : List Char) : Credentials :=
  let encoded (part : List Char) : String := String.ofList (percentEncode userinfoSet part)
  ⟨encoded (text.takeWhile (· != ':')), encoded ((text.dropWhile (· != ':')).drop 1)⟩

-- Cuts at the last `@` of the authority.
def readCredentials (special : Bool) (text : List Char) :
    Except Fault (Credentials × List Char) :=
  let authority := text.takeWhile fun c => !endsAuthority special c
  let behind := text.dropWhile fun c => !endsAuthority special c
  if authority.contains '@' then
    let host := (authority.reverse.takeWhile (· != '@')).reverse
    let info := authority.take (authority.length - host.length - 1)
    if info.isEmpty ∧ host.isEmpty ∧ !behind.isEmpty then .error .emptyHost
    else .ok (.ofText info, host ++ behind)
  else .ok (.none, text)

def splitHost (special : Bool) : (inBrackets : Bool) → List Char → List Char × List Char
  | _, [] => ([], [])
  | inBrackets, c :: rest =>
    if endsAuthority special c ∨ (c = ':' ∧ !inBrackets) then ([], c :: rest)
    else
      let inBrackets := c = '[' ∨ (inBrackets ∧ c ≠ ']')
      let (host, behind) := splitHost special inBrackets rest
      (c :: host, behind)

def endsPort (c : Char) : Bool := endsAuthority true c

def readPort (scheme : String) (text : List Char) : Except Fault (Option Nat × List Char) :=
  let digits := text.takeWhile isDigit
  let rest := text.dropWhile isDigit
  let port := digits.foldl (fun value c => 10 * value + (c.toNat - 48)) 0
  if 65535 < port then .error .invalidPort
  else if rest.head?.any fun c => !endsPort c then .error .invalidPort
  else if digits.isEmpty ∨ defaultPorts.lookup scheme = some port then .ok (none, rest)
  else .ok (some port, rest)

def readHost (scheme : String) (text : List Char) :
    Except Fault (Host × Option Nat × List Char) := do
  let special := isSpecial scheme
  let (name, rest) := splitHost special false text
  if special ∧ name.isEmpty then .error .emptyHost
  else
    let host ← if special then Host.domain? name else Host.kept? name
    match rest with
    | ':' :: rest =>
      if host.isEmpty then .error .emptyHost
      else
        let (port, rest) ← readPort scheme rest
        .ok (host, port, rest)
    | _ => .ok (host, none, rest)

def isSingleDot (name : List Char) : Bool :=
  [".", "%2e"].contains (String.ofList (name.map Char.toLower))

def isDoubleDot (name : List Char) : Bool :=
  ["..", ".%2e", "%2e.", "%2e%2e"].contains (String.ofList (name.map Char.toLower))

def isDrive (name : List Char) : Bool :=
  match name with
  | [letter, ':'] => isLetter letter
  | _ => false

def parent (isFile : Bool) (names : List (List Char)) : List (List Char) :=
  if isFile ∧ names.getLast?.any isDrive then names else names.dropLast

def resolve (isFile : Bool) (names : List (List Char)) : List (List Char) → List (List Char)
  | [] => names
  | name :: rest =>
    if isDoubleDot name then
      let above := parent isFile names
      resolve isFile (if rest.isEmpty then above ++ [[]] else above) rest
    else if isSingleDot name then
      resolve isFile (if rest.isEmpty then names ++ [[]] else names) rest
    else resolve isFile (names ++ [percentEncode pathSet name]) rest

-- In front of a file's path a drive may be written with a bar, and may lack the slash behind it.
def withDrive : List (List Char) → List (List Char)
  | [letter, '|'] :: rest =>
    if isLetter letter then [letter, ':'] :: rest else [letter, '|'] :: rest
  | (letter :: ':' :: c :: name) :: rest =>
    if isLetter letter then [letter, ':'] :: (c :: name) :: rest
    else (letter :: ':' :: c :: name) :: rest
  | names => names

def pathOf (names : List (List Char)) : Path := .segments (names.map String.ofList)

def readSegments (isFile special : Bool) (text : List Char) : List (List Char) :=
  let names := Text.splitOn (isSlash special) (text.takeWhile fun c => !endsPath c)
  resolve isFile [] (if isFile then withDrive names else names)

def readPath (special : Bool) (text : List Char) : Path :=
  match text with
  | c :: rest =>
    if isSlash special c then pathOf (readSegments false special rest)
    else if endsPath c ∧ !special then .segments []
    else pathOf (readSegments false special text)
  | [] => if special then .segments [""] else .segments []

def readEnd (special : Bool) (text : List Char) : Option String × Option String :=
  let behindPath := text.dropWhile fun c => !endsPath c
  let fragment (text : List Char) : Option String :=
    match text.dropWhile (· != '#') with
    | _ :: rest => some (String.ofList (percentEncode fragmentSet rest))
    | [] => none
  match behindPath with
  | '?' :: rest =>
    let refused := if special then specialQuerySet else querySet
    (some (String.ofList (percentEncode refused (rest.takeWhile (· != '#')))), fragment rest)
  | rest => (none, fragment rest)

def readAuthority (scheme : String) (text : List Char) : Except Fault Url := do
  let special := isSpecial scheme
  let (credentials, text) ← readCredentials special text
  let (host, port, text) ← readHost scheme text
  let (query, fragment) := readEnd special text
  let url : Url :=
    ⟨scheme, credentials.username, credentials.password, some host, port, readPath special text,
      query, fragment⟩
  if host.isEmpty ∧ !url.credentialsText.isEmpty then .error .emptyHost else .ok url

def filePath (names : List (List Char)) : Path :=
  match names.dropWhile List.isEmpty with
  | [] => .segments [""]
  | names => pathOf names

def isWrittenDrive (name : List Char) : Bool :=
  match name with
  | [letter, mark] => isLetter letter && (mark == ':' || mark == '|')
  | _ => false

def fileUrl (host : Host) (names : List Char) (rest : List Char) : Url :=
  let segments := readSegments true true names
  let host := if segments.head?.any isDrive then .domain "" else host
  let (query, fragment) := readEnd true rest
  ⟨"file", "", "", some host, none, filePath segments, query, fragment⟩

-- A file without a host is one of this machine, which may also be named.
def readFile (text : List Char) : Except Fault Url :=
  let here : Host := .domain ""
  match text with
  | first :: second :: rest =>
    if isSlash true first ∧ isSlash true second then
      let name := rest.takeWhile fun c => !endsAuthority true c
      let behind := rest.dropWhile fun c => !endsAuthority true c
      let path := if (behind.head?.any (isSlash true)) then behind.drop 1 else behind
      if isWrittenDrive name then .ok (fileUrl here rest rest)
      else if name.isEmpty then .ok (fileUrl here path behind)
      else do
        let host ← Host.domain? name
        .ok (fileUrl (if host = .domain "localhost" then here else host) path behind)
    else if isSlash true first then .ok (fileUrl here (second :: rest) text)
    else .ok (fileUrl here text text)
  | [first] =>
    if isSlash true first then .ok (fileUrl here [] []) else .ok (fileUrl here text text)
  | [] => .ok (fileUrl here [] [])

-- Without an authority the path is a list of names only if it begins with a slash.
def readPlain (scheme : String) (text : List Char) : Url :=
  let path : Path :=
    match text with
    | '/' :: rest => pathOf (readSegments false false rest)
    | _ => .plain (String.ofList (percentEncode controlSet (text.takeWhile fun c => !endsPath c)))
  let (query, fragment) := readEnd false text
  ⟨scheme, "", "", none, none, path, query, fragment⟩

def ofChars? (text : List Char) : Except Fault Url :=
  match readScheme? (cleaned text) with
  | none => .error .relative
  | some (scheme, rest) =>
    if scheme = "file" then readFile rest
    else if isSpecial scheme then readAuthority scheme (rest.dropWhile (isSlash true))
    else
      match rest with
      | '/' :: '/' :: rest => readAuthority scheme rest
      | _ => .ok (readPlain scheme rest)

def ofText? (text : String) : Except Fault Url := ofChars? text.toList

end BrokerVault.Url
