import BrokerVault.Database.Vault
import BrokerVault.Text.Quoted

/-! The stored credentials. New ones are never primary, one label at most is primary after the
primary was set, and each change is one commit or none. A row that is loaded is fully typed: no column
of it fails to decode, and its flag is one of two. -/
namespace BrokerVault

inductive StoreError where
  | database (fault : DatabaseFault)
  | unknownLabel (label : String)
  deriving DecidableEq, Repr

def StoreError.message : StoreError → String
  | .database fault => "database error: " ++ fault.message
  | .unknownLabel label => "cannot find metadata for password labelled " ++ Text.quoted label

namespace Credentials

def table : Action StoreError (Table Credential) := do
  let database ← Action.database
  Action.ofExcept (database.credentialsTable.mapError .database)

-- In the order in which they were saved. Only a missing table is a fault here: a column that does not
-- decode would end the load in the same way, before anything is written.
def load : Action StoreError (List (Row Credential)) := do
  let stored ← table
  return stored.rows

def write (stored : Table Credential) : Action StoreError Unit := do
  let database ← Action.database
  Action.commit { database with credentials := some stored }

def saveNew (label : String) (salt canary : Bytes) : Action StoreError Unit := do
  let now ← Action.now
  let stored ← table
  match stored.append? label ⟨salt, canary, false, now, now⟩ with
  | some stored => write stored
  | none => Action.fail (.database (.duplicate credentialTable))

def primaryLabels (stored : Table Credential) : List String :=
  (stored.rows.filter (·.value.primary)).map (·.id)

def isOnlyPrimary (label : String) : List String → Bool
  | [] => label.isEmpty
  | [only] => only == label
  | _ => false

def withPrimary (stored : Table Credential) (label : String) (now : Timestamp) :
    Table Credential :=
  let demoted := stored.mapValues fun row =>
    if row.value.primary then { row.value with primary := false, updated := now } else row.value
  if label.isEmpty then demoted
  else demoted.mapValues fun row =>
    if row.id = label then { row.value with primary := true, updated := now } else row.value

-- The label "none" stands for no primary at all.
def updatePrimary (name : String) : Action StoreError Unit := do
  let label := if name = "none" then "" else name
  let stored ← table
  if isOnlyPrimary label (primaryLabels stored) then return ()
  let now ← Action.now
  if label.isEmpty || (stored.find? label).isSome then write (withPrimary stored label now)
  else Action.fail (.unknownLabel label)

def deleteByLabels (labels : List String) : Action StoreError Unit := do
  if labels.isEmpty then return ()
  let stored ← table
  write (stored.keep fun row => !labels.contains row.id)

end Credentials
end BrokerVault
