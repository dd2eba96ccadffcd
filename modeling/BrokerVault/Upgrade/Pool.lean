/-! A pool of workers that share the tasks of one list. A producer passes the tasks on through a
channel with as many places as there are workers. A worker takes hold of the receiving end, waits
there for a task, lets go, calls for the task, and comes back for the next one. A call that panics
takes its worker with it. The pool returns when no worker is left, and with it the receiving end is
gone: the producer gives up what it still holds. Any order of these steps is possible; `step` says
which of them a state admits. A call that ends is named by its place among those in flight. -/
namespace BrokerVault

structure Pool (α : Type) where
  size : Nat
  unsent : List α
  channel : List α
  received : List α
  inFlight : List α
  finished : List α
  panicked : List α
  idle : Nat
  held : Bool
  closed : Bool
  returned : Bool
  deriving DecidableEq, Repr

namespace Pool

variable {α : Type}

def start (size : Nat) (tasks : List α) : Pool α :=
  ⟨size, tasks, [], [], [], [], [], size, false, false, false⟩

inductive Event where
  | send
  | hold
  | receive
  | finish (place : Nat)
  | panic (place : Nat)
  | close
  | retire
  | leave
  | abandon
  deriving DecidableEq, Repr

def step (pool : Pool α) : Event → Option (Pool α)
  | .send =>
    match pool.unsent with
    | task :: rest =>
      if pool.channel.length < pool.size ∧ !pool.returned then
        some { pool with unsent := rest, channel := pool.channel ++ [task] }
      else none
    | [] => none
  | .hold =>
    match pool.idle with
    | idle + 1 => if !pool.held then some { pool with idle := idle, held := true } else none
    | 0 => none
  | .receive =>
    match pool.channel with
    | task :: rest =>
      if pool.held then
        some { pool with
          channel := rest
          received := pool.received ++ [task]
          inFlight := pool.inFlight ++ [task]
          held := false }
      else none
    | [] => none
  | .finish place =>
    match pool.inFlight[place]? with
    | some task =>
      some { pool with
        inFlight := pool.inFlight.eraseIdx place
        finished := pool.finished ++ [task]
        idle := pool.idle + 1 }
    | none => none
  | .panic place =>
    match pool.inFlight[place]? with
    | some task =>
      some { pool with
        inFlight := pool.inFlight.eraseIdx place
        panicked := pool.panicked ++ [task] }
    | none => none
  | .close =>
    if pool.unsent.isEmpty ∧ !pool.closed then some { pool with closed := true } else none
  | .retire =>
    if pool.held ∧ pool.channel.isEmpty ∧ pool.closed then some { pool with held := false }
    else none
  | .leave =>
    if pool.idle = 0 ∧ !pool.held ∧ pool.inFlight.isEmpty ∧ !pool.returned then
      some { pool with returned := true }
    else none
  | .abandon =>
    if !pool.unsent.isEmpty ∧ pool.returned ∧ !pool.closed then some { pool with closed := true }
    else none

def run (pool : Pool α) : List Event → Option (Pool α)
  | [] => some pool
  | event :: rest => (pool.step event).bind fun pool => pool.run rest

def Done (pool : Pool α) : Prop := pool.returned = true ∧ pool.closed = true
instance (pool : Pool α) : Decidable pool.Done := by unfold Done; infer_instance

def stepsLeft (pool : Pool α) : Nat :=
  5 * pool.unsent.length + 4 * pool.channel.length + 3 * pool.inFlight.length + 2 * pool.idle
    + pool.held.toNat + (!pool.closed).toNat + (!pool.returned).toNat

end Pool
end BrokerVault
