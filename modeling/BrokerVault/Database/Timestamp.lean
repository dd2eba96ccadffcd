/-! Points in time, in seconds of universal time since the year 1970, and their texts. -/
namespace BrokerVault

structure Timestamp where
  seconds : Nat
  nanoseconds : Nat
  deriving DecidableEq, Repr, Inhabited

namespace Timestamp

structure Date where
  year : Nat
  month : Nat
  day : Nat
  deriving DecidableEq, Repr

/-- The date that many days after 1970-01-01. Years are counted from March, so that the leap day
ends them; an era of 400 of them has 146097 days. -/
def dateOfDays (days : Nat) : Date :=
  let shifted := days + 719468
  let era := shifted / 146097
  let dayOfEra := shifted % 146097
  let yearOfEra := (dayOfEra - dayOfEra / 1460 + dayOfEra / 36524 - dayOfEra / 146096) / 365
  let dayOfYear := dayOfEra - (365 * yearOfEra + yearOfEra / 4 - yearOfEra / 100)
  let marchMonth := (5 * dayOfYear + 2) / 153
  let month := if marchMonth < 10 then marchMonth + 3 else marchMonth - 9
  let year := yearOfEra + 400 * era + (if month ≤ 2 then 1 else 0)
  ⟨year, month, dayOfYear - (153 * marchMonth + 2) / 5 + 1⟩

def digits (width number : Nat) : String :=
  let plain := toString number
  String.ofList (List.replicate (width - plain.length) '0') ++ plain

def dateText (time : Timestamp) : String :=
  let date := dateOfDays (time.seconds / 86400)
  digits 4 date.year ++ "-" ++ digits 2 date.month ++ "-" ++ digits 2 date.day

def clockText (time : Timestamp) : String :=
  let second := time.seconds % 86400
  digits 2 (second / 3600) ++ ":" ++ digits 2 (second / 60 % 60) ++ ":" ++ digits 2 (second % 60)

def tableText (time : Timestamp) : String := time.dateText ++ " " ++ time.clockText

def stampText (time : Timestamp) : String := time.dateText ++ "T" ++ time.clockText ++ "Z"

end Timestamp
end BrokerVault
