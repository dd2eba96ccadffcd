import BrokerVault.Upgrade.Client
import Mathlib.Data.List.Basic

/-! An upgrade on a platform whose answers are known beforehand, with the times they take. It is
asked for once; then the instance is looked at, each time a pause after the answer before, until an
answer decides or the deadline is there. -/
namespace BrokerVault.Upgrade

structure Arrival where
  after : Nat
  answer : Except RequestFault HttpAnswer

structure Timetable where
  acceptance : Arrival
  look : (number : Nat) → Arrival

structure Dialogue where
  now : Nat
  looks : Nat
  sent : List (Nat × HttpRequest)

namespace Dialogue

def start (now : Nat) : Dialogue := ⟨now, 0, []⟩

def send (request : HttpRequest) (dialogue : Dialogue) : Dialogue where
  now := dialogue.now
  looks := if request.method = .get then dialogue.looks + 1 else dialogue.looks
  sent := dialogue.sent ++ [(dialogue.now, request)]

end Dialogue

namespace Timetable

def arrival (times : Timetable) (request : HttpRequest) (dialogue : Dialogue) : Arrival :=
  match request.method with
  | .patch => times.acceptance
  | .get => times.look dialogue.looks

-- An answer is what the call for it ends in. A request that outlasts the limit a client sets for every
-- request, a minute, is an arrival after that time with a fault; and what a redirect leads to is the
-- answer to the call.
def transport (times : Timetable) : Transport (StateM Dialogue) where
  send request deadline := fun dialogue =>
    let arrival := times.arrival request dialogue
    let arrives := dialogue.now + arrival.after
    match deadline with
    | none => (some arrival.answer, { dialogue.send request with now := arrives })
    | some deadline =>
      if arrives < deadline then
        (some arrival.answer, { dialogue.send request with now := arrives })
      else (none, { dialogue.send request with now := max dialogue.now deadline })
  now := fun dialogue => (dialogue.now, dialogue)
  sleep nanoseconds := fun dialogue =>
    ((), { dialogue with now := dialogue.now + nanoseconds })

def asked (times : Timetable) (began pause : Nat) : (number : Nat) → Nat
  | 0 => began
  | number + 1 => times.asked began pause number + (times.look number).after + pause

def arrives (times : Timetable) (began pause number : Nat) : Nat :=
  times.asked began pause number + (times.look number).after

end Timetable

/-! What an answer says. -/

inductive Refused (status : Nat) : Except RequestFault HttpAnswer → String → Prop where
  | fault (fault : RequestFault) :
      Refused status (.error fault) ("http request error: " ++ fault.message)
  | status {reply : HttpAnswer} (other : reply.status ≠ status) :
      Refused status (.ok reply) ("http response: " ++ toString reply.status)

structure Shows (reply : HttpAnswer) (last : Option LastOperation) : Prop where
  status : reply.status = 200
  body : ∃ found, ServiceInstance.shape.ofBytes? reply.body = .ok found ∧ found.lastOperation = last

inductive Decides : Except RequestFault HttpAnswer → Except UpgradeError Unit → Prop where
  | refused {answer detail} (refused : Refused 200 answer detail) :
      Decides answer (.error (.request detail))
  | garbled {reply : HttpAnswer} (status : reply.status = 200)
      (unread : ∀ found, ServiceInstance.shape.ofBytes? reply.body ≠ .ok found) :
      Decides (.ok reply) (.error (.request
        "failed to unmarshal response into receiver error: error decoding response body"))
  | failed {reply operation} (shows : Shows reply (some operation))
      (kind : operation.kind = "update") (state : operation.state = "failed") :
      Decides (.ok reply) (.error (.failed (operation.description.getD "")))
  | finished {reply operation} (shows : Shows reply (some operation))
      (kind : operation.kind = "update") (standing : operation.state ≠ "failed")
      (settled : operation.state ≠ "in progress") : Decides (.ok reply) (.ok ())

inductive LeavesOpen : Except RequestFault HttpAnswer → Prop where
  | shown {reply last} (shows : Shows reply last)
      (goesOn : ∀ operation, last = some operation → operation.kind = "update" →
        operation.state = "in progress") : LeavesOpen (.ok reply)

theorem outcomeShown {found : ServiceInstance} {operation : LastOperation}
    (last : found.lastOperation = some operation) :
    outcome? (.ok found) =
      if operation.kind = "update" then
        if operation.state = "failed" then
          some (.error (.failed (operation.description.getD "")))
        else if operation.state = "in progress" then none
        else some (.ok ())
      else none := by
  by_cases kind : operation.kind = "update"
  · simp only [outcome?, last, Option.filter_some, kind, beq_self_eq_true, ↓reduceIte]
  · simp only [outcome?, last, Option.filter_some, beq_false_of_ne kind, Bool.false_eq_true,
      if_neg kind, ↓reduceIte]

theorem outcomeUnshown {found : ServiceInstance} (last : found.lastOperation = none) :
    outcome? (.ok found) = none := by
  simp only [outcome?, last, Option.filter_none]

theorem Shows.found {reply : HttpAnswer} {last : Option LastOperation} (shows : Shows reply last) :
    ∃ found : ServiceInstance, answered ServiceInstance.shape (.ok reply) = .ok found ∧
      found.lastOperation = last := by
  obtain ⟨found, read, same⟩ := shows.body
  refine ⟨found, ?_, same⟩
  simp only [answered, if_pos shows.status, read]

theorem Decides.told {answer : Except RequestFault HttpAnswer} {outcome : Except UpgradeError Unit}
    (decides : Decides answer outcome) :
    outcome? (answered ServiceInstance.shape answer) = some outcome := by
  cases decides with
  | refused refused =>
    cases refused with
    | fault fault => rfl
    | status other => simp only [answered, if_neg other, outcome?]
  | @garbled reply status unread =>
    cases read : ServiceInstance.shape.ofBytes? reply.body with
    | error error => simp only [answered, if_pos status, read, outcome?]
    | ok found => exact (unread found read).elim
  | failed shows kind state =>
    obtain ⟨found, told, last⟩ := shows.found
    rw [told, outcomeShown last, if_pos kind, if_pos state]
  | finished shows kind standing settled =>
    obtain ⟨found, told, last⟩ := shows.found
    rw [told, outcomeShown last, if_pos kind, if_neg standing, if_neg settled]

theorem LeavesOpen.told {answer : Except RequestFault HttpAnswer} (leaves : LeavesOpen answer) :
    outcome? (answered ServiceInstance.shape answer) = none := by
  cases leaves with
  | @shown reply last shows goesOn =>
    obtain ⟨found, told, same⟩ := shows.found
    rw [told]
    cases last with
    | none => exact outcomeUnshown same
    | some operation =>
      rw [outcomeShown same]
      split
      · rename_i kind
        have going := goesOn operation rfl kind
        simp [going]
      · rfl

/-! Polling. -/

variable {times : Timetable} {began pause deadline fuel : Nat} {request : HttpRequest}
  {dialogue : Dialogue}

section Rounds

variable {behind : Dialogue} {answer : Except RequestFault HttpAnswer}

end Rounds

theorem Refused.told {answer : Except RequestFault HttpAnswer} {detail : String}
    (refused : Refused 202 answer detail) : accepted answer = .error detail := by
  cases refused with
  | fault fault => rfl
  | status other => exact if_neg other

section Upgrading

variable {client : Client} {guid version : String} {start : Nat} {patch : HttpRequest}

end Upgrading

end BrokerVault.Upgrade
