import BrokerVault.Database.Vault

/-! Runs of actions, taken apart at their steps, and the states that a run passes through. A run
leads from one vault to another within a predicate when every state that it commits, and the one it
ends in, keeps the predicate. -/
namespace BrokerVault

namespace Action

variable {ε ε' α β : Type} {world : Surroundings} {vault after : Vault}

@[simp] theorem pureRun (value : α) : (pure value : Action ε α) world vault = (.ok value, vault) :=
  rfl

@[simp] theorem failRun (error : ε) : (fail error : Action ε α) world vault = (.error error, vault) :=
  rfl

@[simp] theorem ofExceptRun (result : Except ε α) : ofExcept result world vault = (result, vault) :=
  rfl

theorem bindOfOk {first : Action ε α} {next : α → Action ε β} {value : α} {middle : Vault}
    (ran : first world vault = (.ok value, middle)) :
    (first >>= next) world vault = next value world middle := by
  change Action.bind first next world vault = _
  rw [Action.bind, ran]

theorem bindOfError {first : Action ε α} {next : α → Action ε β} {error : ε} {middle : Vault}
    (ran : first world vault = (.error error, middle)) :
    (first >>= next) world vault = (.error error, middle) := by
  change Action.bind first next world vault = _
  rw [Action.bind, ran]

@[simp] theorem bindPure (value : α) (next : α → Action ε β) :
    (pure value >>= next) world vault = next value world vault := bindOfOk rfl

@[simp] theorem bindOfExceptOk (value : α) (next : α → Action ε β) :
    (ofExcept (.ok value) >>= next) world vault = next value world vault := bindOfOk rfl

@[simp] theorem bindOfExceptError (error : ε) (next : α → Action ε β) :
    (ofExcept (.error error) >>= next) world vault = (.error error, vault) := bindOfError rfl

@[simp] theorem bindDatabase (next : Database → Action ε β) :
    (database >>= next) world vault = next vault.database world vault := bindOfOk rfl

@[simp] theorem bindCommit (changed : Database) (next : Unit → Action ε β) :
    (commit changed >>= next) world vault = next () world
      { vault with database := changed, commits := vault.database :: vault.commits } :=
  bindOfOk rfl

@[simp] theorem bindRandom (length : Nat) (next : Option (BytesOf length) → Action ε β) :
    (random length >>= next) world vault =
      next (world.random vault.moment length) world { vault with moment := vault.moment + 1 } :=
  bindOfOk rfl

@[simp] theorem bindNow (next : Timestamp → Action ε β) :
    (now >>= next) world vault =
      next (world.clock vault.moment) world { vault with moment := vault.moment + 1 } :=
  bindOfOk rfl

@[simp] theorem bindCancelled (next : Bool → Action ε β) :
    (cancelled >>= next) world vault =
      next (world.cancelled vault.moment) world { vault with moment := vault.moment + 1 } :=
  bindOfOk rfl

theorem bindRan {first : Action ε α} {next : α → Action ε β} {result : Except ε β}
    (ran : (first >>= next) world vault = (result, after)) :
    (∃ value middle, first world vault = (.ok value, middle) ∧
      next value world middle = (result, after)) ∨
    ∃ error, first world vault = (.error error, after) ∧ result = .error error := by
  cases found : first world vault with
  | mk outcome middle =>
    cases outcome with
    | ok value => exact .inl ⟨value, middle, rfl, (bindOfOk found).symm.trans ran⟩
    | error error =>
      rw [bindOfError found] at ran
      cases ran
      exact .inr ⟨error, rfl, rfl⟩

theorem mapErrorOfOk {change : ε → ε'} {action : Action ε α} {value : α}
    (ran : action world vault = (.ok value, after)) :
    mapError change action world vault = (.ok value, after) := by
  simp only [mapError, ran]

theorem mapErrorOfError {change : ε → ε'} {action : Action ε α} {error : ε}
    (ran : action world vault = (.error error, after)) :
    mapError change action world vault = (.error (change error), after) := by
  simp only [mapError, ran]

theorem mapErrorRan {change : ε → ε'} {action : Action ε α} {result : Except ε' α}
    (ran : mapError change action world vault = (result, after)) :
    ∃ told, action world vault = (told, after) ∧ result = told.mapError change := by
  cases found : action world vault with
  | mk told middle =>
    cases told with
    | ok value =>
      rw [mapErrorOfOk found] at ran
      cases ran
      exact ⟨.ok value, rfl, rfl⟩
    | error error =>
      rw [mapErrorOfError found] at ran
      cases ran
      exact ⟨.error error, rfl, rfl⟩

theorem mapErrorRanOk {change : ε → ε'} {action : Action ε α} {value : α}
    (ran : mapError change action world vault = (.ok value, after)) :
    action world vault = (.ok value, after) := by
  obtain ⟨told, found, same⟩ := mapErrorRan ran
  cases told with
  | ok value =>
    cases same
    exact found
  | error error => cases same

def Within (relation : Vault → Vault → Prop) (action : Action ε α) : Prop :=
  ∀ world vault, relation vault (action world vault).2

theorem Within.mapError {relation : Vault → Vault → Prop} {action : Action ε α} (within : Within relation action) (change : ε → ε') :
    Within relation (Action.mapError change action) := by
  intro world vault
  have here := within world vault
  cases ran : action world vault with
  | mk result middle =>
    rw [ran] at here
    cases result with
    | error error => rwa [mapErrorOfError ran]
    | ok value => rwa [mapErrorOfOk ran]

structure Steady (relation : Vault → Vault → Prop) : Prop where
  looking : ∀ vault moment, relation vault { vault with moment }
  trans : ∀ {before middle after}, relation before middle → relation middle after →
    relation before after

namespace Steady

variable {relation : Vault → Vault → Prop} (steady : Steady relation)
include steady

theorem still {action : Action ε α} (same : ∀ world vault, (action world vault).2 = vault) :
    Within relation action := by
  intro world vault
  rw [same]
  exact steady.looking vault vault.moment

theorem pure (value : α) : Within relation (Pure.pure value : Action ε α) :=
  steady.still fun _ _ => rfl

theorem fail (error : ε) : Within relation (fail error : Action ε α) := steady.still fun _ _ => rfl

theorem ofExcept (result : Except ε α) : Within relation (ofExcept result) :=
  steady.still fun _ _ => rfl

theorem random (length : Nat) : Within relation (random length : Action ε (Option (BytesOf length))) :=
  fun _ vault => steady.looking vault (vault.moment + 1)

theorem bind {first : Action ε α} {next : α → Action ε β} (head : Within relation first)
    (tail : ∀ value, Within relation (next value)) : Within relation (first >>= next) := by
  intro world vault
  have here := head world vault
  cases ran : first world vault with
  | mk result middle =>
    rw [ran] at here
    cases result with
    | error error => rwa [bindOfError ran]
    | ok value =>
      rw [bindOfOk ran]
      exact steady.trans here (tail value world middle)

end Steady
end Action

namespace Surroundings

def Draws (world : Surroundings) {length : Nat} (bytes : BytesOf length) : Prop :=
  ∃ moment, world.random moment length = some bytes

structure Calm (world : Surroundings) : Prop where
  random : ∀ moment length, ∃ bytes, world.random moment length = some bytes
  unstopped : ∀ moment, world.cancelled moment = false

end Surroundings

namespace Vault

/-- The states that a run which stops somewhere may leave, newest first. -/
def states (vault : Vault) : List Database := vault.database :: vault.commits

structure Leads (Good : Database → Prop) (before after : Vault) : Prop where
  present : Good after.database
  past : ∀ database ∈ after.commits, database ∈ before.commits ∨ Good database

variable {Good Better : Database → Prop} {before middle after : Vault}

theorem leadsSame (good : Good before.database) (database : after.database = before.database)
    (commits : after.commits = before.commits) : before.Leads Good after := by
  refine ⟨database ▸ good, ?_⟩
  intro state found
  exact .inl (commits ▸ found)

theorem Leads.trans (first : before.Leads Good middle) (second : middle.Leads Good after) :
    before.Leads Good after := by
  refine ⟨second.present, ?_⟩
  intro state found
  rcases second.past state found with old | good
  · exact first.past state old
  · exact .inr good

theorem Leads.mono (weaker : ∀ database, Better database → Good database)
    (leads : before.Leads Better after) : before.Leads Good after := by
  refine ⟨weaker _ leads.present, ?_⟩
  intro state found
  exact (leads.past state found).imp id (weaker state)

theorem leadsCommit {next : Database} (good : Good before.database) (new : Good next)
    (database : after.database = next)
    (commits : after.commits = before.database :: before.commits) : before.Leads Good after := by
  refine ⟨database ▸ new, ?_⟩
  intro state found
  rw [commits] at found
  rcases List.mem_cons.1 found with rfl | old
  · exact .inr good
  · exact .inl old

theorem Leads.states (leads : before.Leads Good after) (fresh : before.commits = []) :
    ∀ state ∈ after.states, Good state := by
  intro state found
  rcases List.mem_cons.1 found with rfl | old
  · exact leads.present
  · rcases leads.past state old with absent | good
    · simp [fresh] at absent
    · exact good

end Vault
end BrokerVault
