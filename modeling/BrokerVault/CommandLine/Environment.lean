import BrokerVault.Text.Blank

/-! Environment variables, and the file that may add to them. Each line of the file gives a
variable a value; a value in quotes may go on over several lines, and `$` stands for the value of
another variable. A variable that is set already stays as it is. The first line that cannot be
read ends the file. -/
namespace BrokerVault.CommandLine

abbrev Environment := List (String × String)

namespace Environment

def get? (environment : Environment) (name : String) : Option String := environment.lookup name

inductive Place where
  | plain
  | blank
  | escape
  | weak
  | weakEscape
  | strong
  | strongEscape
  deriving DecidableEq, Repr

def Place.opened (c : Char) : Place :=
  if c = '\\' then .escape
  else if c = '"' then .weak
  else if c = '\'' then .strong
  else .plain

def Place.after (c : Char) : Place → Option Place
  | .blank => if c = '#' then none else some (opened c)
  | .escape => some .plain
  | .plain =>
    if Text.isBlank c ∧ c ≠ '\n' ∧ c ≠ '\r' then some .blank else some (opened c)
  | .weak => some (if c = '\\' then .weakEscape else if c = '"' then .plain else .weak)
  | .weakEscape => some .weak
  | .strong => some (if c = '\\' then .strongEscape else if c = '\'' then .plain else .strong)
  | .strongEscape => some .strong

def scanLine (place : Place) : List Char → List Char × Option Place
  | [] => ([], some place)
  | c :: rest =>
    match place.after c with
    | none => ([], none)
    | some next =>
      let (before, last) := scanLine next rest
      (c :: before, last)

def physicalLines : List Char → List (List Char)
  | [] => []
  | c :: rest =>
    if c = '\n' then ['\n'] :: physicalLines rest
    else
      match physicalLines rest with
      | line :: lines => (c :: line) :: lines
      | [] => [[c]]

def withoutLineEnd (line : List Char) : List Char :=
  match line.reverse with
  | '\n' :: '\r' :: rest => rest.reverse
  | '\n' :: rest => rest.reverse
  | _ => line

def logicalLines (held : List Char) (place : Place) :
    List (List Char) → List (Option (List Char))
  | [] => if place = .plain then [] else [none]
  | line :: rest =>
    let whole := held ++ line
    if (whole.dropWhile Text.isBlank).head? = some '#' then
      some [] :: logicalLines [] .plain rest
    else
      match scanLine place line with
      | (before, none) => some (held ++ before) :: logicalLines [] .plain rest
      | (_, some .plain) => some (withoutLineEnd whole) :: logicalLines [] .plain rest
      | (_, some next) => logicalLines whole next rest

inductive Substitution where
  | none
  | name
  | braced
  deriving DecidableEq, Repr

structure ValueState where
  place : Place
  substitution : Substitution
  name : List Char
  output : List Char

def isNameChar (c : Char) : Bool :=
  ('0' ≤ c && c ≤ '9') || ('A' ≤ c && c ≤ 'Z') || ('a' ≤ c && c ≤ 'z')

def escapes : List (Char × Char) :=
  [('\\', '\\'), ('\'', '\''), ('"', '"'), ('$', '$'), (' ', ' '), ('n', '\n')]

namespace ValueState

def add (state : ValueState) (c : Char) : ValueState := { state with output := state.output ++ [c] }

def substituted (lookup : String → String) (state : ValueState) : ValueState :=
  { state with
    substitution := .none
    name := []
    output := state.output ++ (lookup (String.ofList state.name)).toList }

def inSubstitution (lookup : String → String) (c : Char) (state : ValueState) : ValueState :=
  if isNameChar c then { state with name := state.name ++ [c] }
  else if state.substitution = .braced then
    if c = '\x7d' then state.substituted lookup else { state with name := state.name ++ [c] }
  else if c = '\x7b' ∧ state.name.isEmpty then { state with substitution := .braced }
  else
    let state := state.substituted lookup
    if c = '$' then { state with substitution := .name } else state.add c

def inText (c : Char) (state : ValueState) : ValueState :=
  if c = '$' then { state with substitution := .name }
  else if state.place = .weak then
    if c = '"' then { state with place := .plain }
    else if c = '\\' then { state with place := .weakEscape }
    else state.add c
  else if c = ' ' ∨ c = '\t' then { state with place := .blank }
  else
    match Place.opened c with
    | .plain => state.add c
    | place => { state with place := place }

end ValueState

def ValueState.finish (lookup : String → String) (state : ValueState) : Option String :=
  if state.substitution = .braced ∨ state.place = .strong ∨ state.place = .weak then none
  else
    let last := if state.substitution = .none then state else state.substituted lookup
    some (String.ofList last.output)

-- Behind a blank only a comment may follow. A single quote keeps everything up to the next one.
def readValue (lookup : String → String) : ValueState → List Char → Option String
  | state, [] => state.finish lookup
  | state, c :: rest =>
    match state.place with
    | .blank =>
      if c = ' ' ∨ c = '\t' then readValue lookup state rest
      else if c = '#' then state.finish lookup
      else none
    | .escape | .weakEscape | .strongEscape =>
      match escapes.lookup c with
      | some stands =>
        let place : Place := if state.place = .weakEscape then .weak else .plain
        readValue lookup { state.add stands with place := place } rest
      | none => none
    | .strong =>
      readValue lookup (if c = '\'' then { state with place := .plain } else state.add c) rest
    | .plain | .weak =>
      if state.substitution = .none then readValue lookup (state.inText c) rest
      else readValue lookup (state.inSubstitution lookup c) rest

def isKeyStart (c : Char) : Bool := c == '_' || (isNameChar c && !('0' ≤ c && c ≤ '9'))
def isKeyChar (c : Char) : Bool := isNameChar c || c == '_' || c == '.'

def readKey (line : List Char) : Option (String × List Char) :=
  if line.head?.any isKeyStart then
    some (String.ofList (line.takeWhile isKeyChar),
      (line.dropWhile isKeyChar).dropWhile Text.isBlank)
  else none

def readEqual : List Char → Option (List Char)
  | '=' :: rest => some (rest.dropWhile Text.isBlank)
  | _ => none

def readName (line : List Char) : Option (String × List Char) := do
  let (key, rest) ← readKey line
  match readEqual rest with
  | some value => some (key, value)
  | none =>
    if key = "export" then
      let (key, rest) ← readKey rest
      let value ← readEqual rest
      some (key, value)
    else none

def readLine (lookup : String → String) (line : List Char) : Option (Option (String × String)) :=
  let line := (Text.dropEndWhile Text.isBlank line).dropWhile Text.isBlank
  if line.isEmpty ∨ line.head? = some '#' then some none
  else do
    let (key, value) ← readName line
    if value.isEmpty ∨ value.head? = some '#' then some (some (key, ""))
    else
      let value ← readValue lookup ⟨.plain, .none, [], []⟩ value
      some (some (key, value))

def withLines (environment given : Environment) : List (Option (List Char)) → Environment
  | [] => environment
  | none :: _ => environment
  | some line :: rest =>
    let lookup (name : String) : String :=
      ((environment.get? name) <|> (given.get? name)).getD ""
    match readLine lookup line with
    | none => environment
    | some none => withLines environment given rest
    | some (some (key, value)) =>
      let added :=
        if (environment.get? key).isSome then environment else (key, value) :: environment
      withLines added ((key, value) :: given) rest

def withFile (environment : Environment) (contents : String) : Environment :=
  let text :=
    match contents.toList with
    | '\ufeff' :: rest => rest
    | text => text
  withLines environment [] (logicalLines [] .plain (physicalLines text))

end Environment
end BrokerVault.CommandLine
