import BrokerVault.NameMap
import BrokerVault.Text.Blank
import BrokerVault.Text.Quoted
import BrokerVault.Upgrade.Elapsed

/-! The report of a bulk upgrade: a line for each thing that happens, and a tally of what
happened. The table of failures at the end has a row for each instance that failed, with the
reason of its last failure. -/
namespace BrokerVault

structure Report where
  target : Nat
  complete : Nat
  successes : Nat
  failures : NameMap String
  deriving DecidableEq, Repr

namespace Report

def empty : Report := ⟨0, 0, 0, []⟩

inductive Event where
  | note (message : String)
  | totals (total upgradable : Nat)
  | started (guid : String)
  | succeeded (guid : String) (after : Elapsed)
  | failed (guid : String) (after : Elapsed) (reason : String)
  | progress
  | closing
  deriving DecidableEq, Repr

def separator : String := "---"

def progressLine (report : Report) : String := s!"upgraded {report.complete} of {report.target}"

def tableHeader : String := "Service Instance GUID"

-- Lengths are those of the encoded names, so that no name is cut.
def tableWidth (report : Report) : Nat :=
  report.failures.foldl (fun width (guid, _) => max width guid.utf8ByteSize)
    tableHeader.utf8ByteSize

def tableRow (fill : Char) (width : Nat) (name details : String) : String :=
  Text.padEnd fill width name ++ " | " ++ details

def failureTable (report : Report) : List String :=
  let width := report.tableWidth
  tableRow ' ' width tableHeader "Details" :: tableRow '-' width "" "-------"
    :: report.failures.map fun (guid, reason) => tableRow ' ' width guid reason

def closingLines (report : Report) : List String :=
  [report.progressLine, separator, s!"successfully upgraded {report.successes} instances"]
    ++ if report.failures.isEmpty then []
      else s!"failed to upgrade {report.failures.length} instances" :: "" :: report.failureTable

def lines (report : Report) : Event → List String
  | .note message => [message]
  | .totals total upgradable =>
    [separator, s!"total instances: {total}", s!"upgradable instances: {upgradable}", separator]
  | .started guid => ["starting to upgrade " ++ Text.quoted guid]
  | .succeeded guid elapsed =>
    ["finished upgrade of " ++ Text.quoted guid ++ " successfully after " ++ elapsed.text]
  | .failed guid elapsed reason =>
    ["upgrade of " ++ Text.quoted guid ++ " failed after " ++ elapsed.text ++ ": " ++ reason]
  | .progress => [report.progressLine]
  | .closing => report.closingLines

def after (report : Report) : Event → Report
  | .totals _ upgradable => { report with target := upgradable }
  | .succeeded _ _ =>
    { report with successes := report.successes + 1, complete := report.complete + 1 }
  | .failed guid _ reason =>
    { report with
      failures := report.failures.insert guid reason, complete := report.complete + 1 }
  | .note _ | .started _ | .progress | .closing => report

def run (report : Report) : List Event → Report × List String
  | [] => (report, [])
  | event :: rest =>
    let (last, lines) := run (report.after event) rest
    (last, report.lines event ++ lines)

end Report
end BrokerVault
