import BrokerVault.Upgrade.Client
import BrokerVault.Upgrade.Wire
import Std.Async.DNS
import Std.Async.TCP
import Std.Async.Timer

/-! Requests over the network, each on a connection of its own. Only plain connections can be
made. -/
namespace BrokerVault.CommandLine.Network
open Std.Async Std.Net
open Upgrade

def requestTimeout : Nat := 60 * Elapsed.second

def inWord4 (value : Nat) : IPAddr :=
  let part (place : Nat) : UInt8 := UInt8.ofNat (value / Nat.pow 256 place)
  .v4 (.ofParts (part 3) (part 2) (part 1) (part 0))

def inWord6 (pieces : List Nat) : IPAddr :=
  let piece (place : Nat) : UInt16 := UInt16.ofNat (pieces.getD place 0)
  .v6 (.ofParts (piece 0) (piece 1) (piece 2) (piece 3) (piece 4) (piece 5) (piece 6) (piece 7))

def addresses (host : Url.Host) : Async (List IPAddr) :=
  match host with
  | .domain name => return (← DNS.getAddrInfo name "http").toList
  | .address4 value => return [inWord4 value]
  | .address6 pieces => return [inWord6 pieces]

def withPort (address : IPAddr) (port : UInt16) : SocketAddress :=
  match address with
  | .v4 address => .v4 ⟨address, port⟩
  | .v6 address => .v6 ⟨address, port⟩

partial def receive (connection : TCP.Socket.Client) (before : Bytes) : Async Bytes := do
  match ← connection.recv? 65536 with
  | some part => if part.isEmpty then return before else receive connection (before ++ part.toList)
  | none => return before

def converse (address : SocketAddress) (request : Bytes) : Async Bytes := do
  let connection ← TCP.Socket.Client.mk
  connection.connect address
  connection.send ⟨request.toArray⟩
  receive connection []

def exchange (request : HttpRequest) (host : Url.Host) : Async (Option HttpAnswer) := do
  let port := UInt16.ofNat (request.url.port.getD 80)
  for address in ← addresses host do
    try
      let answer ← converse (withPort address port) (Wire.requestBytes request)
      return HttpAnswer.ofBytes? answer
    catch _ => pure ()
  return none

def milliseconds (nanoseconds : Nat) : Nat := nanoseconds / 1000000

def pause (nanoseconds : Nat) : Async Unit := sleep (.ofNat (milliseconds nanoseconds))

def plainHost? (url : Url) : Option Url.Host := if url.scheme = "http" then url.host else none

def send (request : HttpRequest) (deadline : Option Nat) :
    IO (Option (Except RequestFault HttpAnswer)) := do
  let unanswered := RequestFault.unanswered request.url.text
  match plainHost? request.url with
  | none => return some (.error unanswered)
  | some host => do
    let now ← IO.monoNanosNow
    let left := deadline.map (· - now)
    let limit := min requestTimeout (left.getD requestTimeout)
    let inTime : Async (Option (Option HttpAnswer)) :=
      try return some (← exchange request host) catch _ => return some none
    let late : Async (Option (Option HttpAnswer)) := do
      pause limit
      return none
    match ← (Async.race inTime late).block with
    | some (some answer) => return some (.ok answer)
    | some none => return some (.error unanswered)
    | none => return if left.any (· ≤ requestTimeout) then none else some (.error unanswered)

def transport : Transport IO where
  send := send
  now := IO.monoNanosNow
  sleep nanoseconds := IO.sleep (UInt32.ofNat (milliseconds nanoseconds))

end BrokerVault.CommandLine.Network
