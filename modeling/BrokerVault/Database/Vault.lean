import BrokerVault.Database.Basic

/-! A database in use. What a run sees of the world, random bytes, the clock and the request to
stop, depends on the moment it looks, and every look is a moment of its own. A run that stops
anywhere leaves the state that was committed last, so all committed states are kept. -/
namespace BrokerVault

structure Surroundings where
  random : (moment length : Nat) → Option (BytesOf length)
  clock : (moment : Nat) → Timestamp
  cancelled : (moment : Nat) → Bool

structure Vault where
  database : Database
  commits : List Database
  moment : Nat

def Vault.ofDatabase (database : Database) : Vault := ⟨database, [], 0⟩

/-- What a run does to a vault: it may fail, and what was committed before stays. -/
abbrev Action (ε α : Type) := Surroundings → Vault → Except ε α × Vault

namespace Action

variable {ε ε' α β : Type}

@[inline] protected def pure (value : α) : Action ε α := fun _ vault => (.ok value, vault)

@[inline] protected def bind (first : Action ε α) (next : α → Action ε β) : Action ε β :=
  fun world vault =>
    match first world vault with
    | (.ok value, vault) => next value world vault
    | (.error error, vault) => (.error error, vault)

instance : Monad (Action ε) where
  pure := Action.pure
  bind := Action.bind

@[inline] def fail (error : ε) : Action ε α := fun _ vault => (.error error, vault)

@[inline] def ofExcept (result : Except ε α) : Action ε α := fun _ vault => (result, vault)

@[inline] def mapError (change : ε → ε') (action : Action ε α) : Action ε' α :=
  fun world vault =>
    match action world vault with
    | (.ok value, vault) => (.ok value, vault)
    | (.error error, vault) => (.error (change error), vault)

def database : Action ε Database := fun _ vault => (.ok vault.database, vault)

def commit (database : Database) : Action ε Unit := fun _ vault =>
  (.ok (), { vault with database := database, commits := vault.database :: vault.commits })

@[inline] def look (observe : Surroundings → Nat → α) : Action ε α := fun world vault =>
  (.ok (observe world vault.moment), { vault with moment := vault.moment + 1 })

def random (length : Nat) : Action ε (Option (BytesOf length)) :=
  look fun world moment => world.random moment length

def now : Action ε Timestamp := look fun world moment => world.clock moment

def cancelled : Action ε Bool := look fun world moment => world.cancelled moment

end Action
end BrokerVault
