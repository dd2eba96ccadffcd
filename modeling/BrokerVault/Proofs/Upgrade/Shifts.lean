import BrokerVault.Proofs.Upgrade.Sharing
import BrokerVault.Proofs.Upgrade.Tally

/-! The workers at work. Whatever a schedule asks for, every task that was taken waits for its call or
was called for once, every call is under way or was reported with the ending that the platform gave
it, and the shift is over only when the pool and its producer are. -/
namespace BrokerVault.Upgrade

open Pool (Steps stepTaken)

def Scenario.endings (scenario : Scenario) (tasks : List Task) : List (Task × Ending) :=
  tasks.mapIdx fun number task => (task, (scenario.course number task).ending)

def Job.underWay? (job : Job) : Option (Task × Ending) :=
  job.call.map fun call => (job.task, call.ending)

inductive Takes (scenario : Scenario) (shift : Shift) : Shift → Prop where
  | call {place task} (waiting : shift.jobs[place]? = some ⟨task, none⟩) :
      Takes scenario shift (shift.goOut scenario place task)
  | passing {event pool} (steps : Steps shift.pool event pool)
      (received : pool.received = shift.pool.received)
      (inFlight : pool.inFlight = shift.pool.inFlight)
      (panicked : pool.panicked = shift.pool.panicked) :
      Takes scenario shift { shift with pool := pool }
  | receiving {task rest pool} (steps : Steps shift.pool .receive pool)
      (first : shift.pool.channel = task :: rest) :
      Takes scenario shift { shift with pool := pool, jobs := shift.jobs ++ [⟨task, none⟩] }
  | ending {place task call pool} (steps : Steps shift.pool (call.event place) pool)
      (under : shift.jobs[place]? = some ⟨task, some call⟩) :
      Takes scenario shift { shift.conclude place with pool := pool }

variable {scenario : Scenario} {schedule : Schedule} {shift next : Shift} {late : Nat}
  {turn : Turn}

@[simp] theorem waitJobs (period time : Nat) (shift : Shift) :
    (shift.waitUntil period time).jobs = shift.jobs := by
  unfold Shift.waitUntil
  split <;> rfl

@[simp] theorem waitPool (period time : Nat) (shift : Shift) :
    (shift.waitUntil period time).pool = shift.pool := by
  unfold Shift.waitUntil
  split <;> rfl

theorem waitTurnsLeft (period time : Nat) (shift : Shift) :
    (shift.waitUntil period time).turnsLeft = shift.turnsLeft := by
  rw [Shift.turnsLeft, waitJobs, waitPool, Shift.turnsLeft]

theorem callFound {place : Nat} {task : Task} {call : Call}
    (found : shift.jobs[place]? = some ⟨task, some call⟩) : shift.call? place = some call := by
  rw [Shift.call?, found]
  rfl

theorem finishAllowed {place : Nat} (allowed : shift.allows (.finish place) = true) :
    ∃ task call, shift.jobs[place]? = some ⟨task, some call⟩ ∧ call.event place = .finish place := by
  obtain ⟨call, found, ending⟩ := (Option.any_eq_true _ _).1 allowed
  obtain ⟨⟨task, _⟩, job, rfl⟩ := Option.bind_eq_some_iff.1 found
  refine ⟨task, call, job, ?_⟩
  rw [Call.event, if_neg (by simpa using ending)]

theorem panicAllowed {place : Nat} (allowed : shift.allows (.panic place) = true) :
    ∃ task call, shift.jobs[place]? = some ⟨task, some call⟩ ∧ call.event place = .panic place := by
  obtain ⟨call, found, ending⟩ := (Option.any_eq_true _ _).1 allowed
  obtain ⟨⟨task, _⟩, job, rfl⟩ := Option.bind_eq_some_iff.1 found
  refine ⟨task, call, job, ?_⟩
  rw [Call.event, if_pos (by simpa using ending)]

theorem eventAllowed {place : Nat} {task : Task} {call : Call}
    (found : shift.jobs[place]? = some ⟨task, some call⟩) :
    shift.allows (call.event place) = true := by
  by_cases panics : call.ending = .panics <;>
    simp [Call.event, panics, Shift.allows, callFound found]

theorem followed {event : Pool.Event} {pool : Pool Task} (steps : Steps shift.pool event pool)
    (allowed : shift.allows event = true) :
    Takes scenario shift { shift.follow event with pool := pool } := by
  cases event with
  | receive =>
    cases steps with
    | receive first held =>
      have taking : Takes scenario shift _ := .receiving (.receive first held) first
      simpa only [Shift.follow, first] using taking
  | finish place =>
    obtain ⟨task, call, found, ends⟩ := finishAllowed allowed
    exact .ending (ends ▸ steps) found
  | panic place =>
    obtain ⟨task, call, found, ends⟩ := panicAllowed allowed
    exact .ending (ends ▸ steps) found
  | send | hold | close | retire | leave | abandon =>
    exact .passing steps (by cases steps; rfl) (by cases steps; rfl) (by cases steps; rfl)

theorem takeTaken (taken : shift.take scenario late turn = some next) :
    ∃ time, Takes scenario (shift.waitUntil scenario.progressPeriod time) next := by
  refine ⟨shift.ready turn + late, ?_⟩
  generalize same : shift.waitUntil scenario.progressPeriod (shift.ready turn + late) = waited
  have jobs : waited.jobs = shift.jobs := same ▸ waitJobs _ _ _
  have pool : waited.pool = shift.pool := same ▸ waitPool _ _ _
  cases turn with
  | call place =>
    simp only [Shift.take] at taken
    split at taken
    · rename_i task waiting
      cases taken
      rw [same]
      exact .call (jobs ▸ waiting)
    · cases taken
  | pool event =>
    simp only [Shift.take, same] at taken
    split at taken
    · rename_i allowed
      obtain ⟨after, stepped, rfl⟩ := Option.map_eq_some_iff.1 taken
      refine followed (pool ▸ stepTaken.1 stepped) ?_
      rw [← allowed]
      cases event <;> simp only [Shift.allows, Shift.call?, jobs]
    · cases taken

theorem Takes.pool (takes : Takes scenario shift next) :
    next.pool = shift.pool ∨ ∃ event, Steps shift.pool event next.pool := by
  cases takes with
  | call => exact .inl rfl
  | passing steps | receiving steps | ending steps => exact .inr ⟨_, steps⟩

theorem foundAt {α β : Type} {list : List α} {place : Nat} {one : α}
    (found : list[place]? = some one) (pick : α → Option β) :
    (list.filterMap pick).Perm ((pick one).toList ++ (list.eraseIdx place).filterMap pick) := by
  obtain ⟨inside, rfl⟩ := List.getElem?_eq_some_iff.1 found
  have moved := (List.getElem_cons_eraseIdx_perm inside).symm.filterMap pick
  rw [List.filterMap_cons] at moved
  cases same : pick list[place] <;> simpa [same] using moved

theorem setAt {α β : Type} {list : List α} {place : Nat} {one : α}
    (found : list[place]? = some one) (other : α) (pick : α → Option β) :
    ((pick one).toList ++ (list.set place other).filterMap pick).Perm
      ((pick other).toList ++ list.filterMap pick) := by
  obtain ⟨inside, rfl⟩ := List.getElem?_eq_some_iff.1 found
  have moved := (List.set_perm_cons_eraseIdx inside other).filterMap pick
  rw [List.filterMap_cons] at moved
  have behind : ((list.set place other).filterMap pick).Perm
      ((pick other).toList ++ (list.eraseIdx place).filterMap pick) := by
    cases same : pick other <;> simpa [same] using moved
  exact (behind.append_left _).trans
    ((List.perm_append_comm_assoc _ _ _).trans ((foundAt found pick).symm.append_left _))

theorem setSame {α : Type} {list : List α} {place : Nat} {one : α}
    (found : list[place]? = some one) : list.set place one = list := by
  obtain ⟨inside, rfl⟩ := List.getElem?_eq_some_iff.1 found
  exact List.set_getElem_self inside

theorem concludeShift {place : Nat} {task : Task} {call : Call}
    (under : shift.jobs[place]? = some ⟨task, some call⟩) :
    shift.conclude place = { shift with
      jobs := shift.jobs.eraseIdx place
      chronicle := shift.chronicle.conclude task call.ending
        ⟨shift.chronicle.now - call.since⟩ } := by
  rw [Shift.conclude, under]

theorem goneOut (scenario : Scenario) (shift : Shift) (place : Nat) (task : Task) :
    ∃ call, (shift.goOut scenario place task).jobs = shift.jobs.set place ⟨task, some call⟩ ∧
      call.ending = (scenario.course shift.chronicle.upgrades.length task).ending :=
  ⟨_, rfl, rfl⟩

theorem Takes.turnsLeftDecrease (takes : Takes scenario shift next) :
    next.turnsLeft < shift.turnsLeft := by
  cases takes with
  | call waiting =>
    rename_i place task
    obtain ⟨call, jobs, _⟩ := goneOut scenario shift place task
    have fewer := (setAt waiting ⟨task, some call⟩ Job.waiting?).length_eq
    have pool : (shift.goOut scenario place task).pool = shift.pool := rfl
    simp [Shift.turnsLeft, jobs, pool, Job.waiting?] at fewer ⊢
    omega
  | passing steps =>
    have fewer := Pool.stepsLeftDecrease steps
    simp only [Shift.turnsLeft]
    omega
  | receiving steps first =>
    have fewer := Pool.stepsLeftDecrease steps
    simp [Shift.turnsLeft, Job.waiting?]
    omega
  | ending steps under =>
    have fewer := Pool.stepsLeftDecrease steps
    have before := (foundAt under Job.waiting?).length_eq
    rw [concludeShift under]
    simp [Shift.turnsLeft, Job.waiting?] at before ⊢
    omega

structure Accounts (scenario : Scenario) (shift : Shift) : Prop where
  jobs : shift.jobs.map (·.task) = shift.pool.inFlight
  asked : shift.pool.received.Perm
    (shift.chronicle.upgrades ++ shift.jobs.filterMap Job.waiting?)
  ended : (scenario.endings shift.chronicle.upgrades).Perm
    (shift.chronicle.outcomes ++ shift.jobs.filterMap Job.underWay?)
  lost : shift.pool.panicked.length =
    shift.chronicle.outcomes.countP fun outcome => outcome.2 = .panics
  tally : Tallies shift.chronicle.outcomes shift.chronicle.report

theorem progressKeeps (times : List Nat) (chronicle : Chronicle) :
    let told := times.foldl (fun (before : Chronicle) _ => before.record .progress) chronicle
    told.requests = chronicle.requests ∧ told.outcomes = chronicle.outcomes ∧
      told.report = chronicle.report := by
  induction times generalizing chronicle with
  | nil => exact ⟨rfl, rfl, rfl⟩
  | cons time rest ih => exact ih (chronicle.record .progress)

theorem Accounts.wait (accounts : Accounts scenario shift) (period time : Nat) :
    Accounts scenario (shift.waitUntil period time) := by
  unfold Shift.waitUntil
  split
  · exact accounts
  · obtain ⟨requests, outcomes, report⟩ := progressKeeps
      (List.range (Chronicle.periodsBefore period time -
        Chronicle.periodsBefore period shift.chronicle.now)) shift.chronicle
    obtain ⟨jobs, asked, ended, lost, tally⟩ := accounts
    refine ⟨jobs, ?_, ?_, ?_, ?_⟩
    · simpa only [Chronicle.upgrades, Chronicle.waitUntil, requests] using asked
    · simpa only [Chronicle.upgrades, Chronicle.waitUntil, requests, outcomes] using ended
    · simpa only [Chronicle.waitUntil, outcomes] using lost
    · simpa only [Chronicle.waitUntil, outcomes, report] using tally

theorem askedUpgrade (chronicle : Chronicle) (task : Task) :
    (chronicle.ask (.upgrade task.guid task.version)).upgrades = chronicle.upgrades ++ [task] := by
  simp [Chronicle.ask, Chronicle.upgrades, Request.task?]

theorem endingsAppend (scenario : Scenario) (tasks : List Task) (task : Task) :
    scenario.endings (tasks ++ [task]) =
      scenario.endings tasks ++ [(task, (scenario.course tasks.length task).ending)] :=
  List.mapIdx_concat

theorem Accounts.goOut (accounts : Accounts scenario shift) {place : Nat} {task : Task}
    (waiting : shift.jobs[place]? = some ⟨task, none⟩) :
    Accounts scenario (shift.goOut scenario place task) := by
  obtain ⟨jobs, asked, ended, lost, tally⟩ := accounts
  have upgrades : (shift.goOut scenario place task).chronicle.upgrades =
      shift.chronicle.upgrades ++ [task] := askedUpgrade _ _
  obtain ⟨call, after, ending⟩ := goneOut scenario shift place task
  refine ⟨?_, ?_, ?_, lost, tally⟩
  · have same : (shift.jobs.map (·.task))[place]? = some task := by simp [waiting]
    rw [after, List.map_set]
    exact (setSame same).trans jobs
  · have swapped := setAt waiting ⟨task, some call⟩ Job.waiting?
    rw [upgrades, List.append_assoc, after]
    exact asked.trans (swapped.symm.append_left _)
  · have swapped := setAt waiting ⟨task, some call⟩ Job.underWay?
    rw [upgrades, endingsAppend, ← ending, after]
    exact (ended.append_right _).trans (List.append_assoc _ _ _ ▸
      (List.perm_append_comm.trans swapped.symm).append_left _)

theorem Accounts.conclude (accounts : Accounts scenario shift) {place : Nat} {task : Task}
    {call : Call} {pool : Pool Task} (under : shift.jobs[place]? = some ⟨task, some call⟩)
    (received : pool.received = shift.pool.received)
    (inFlight : pool.inFlight = shift.pool.inFlight.eraseIdx place)
    (panicked : pool.panicked.length =
      shift.pool.panicked.length + if call.ending = .panics then 1 else 0) :
    Accounts scenario { shift.conclude place with pool := pool } := by
  obtain ⟨jobs, asked, ended, lost, tally⟩ := accounts
  have told : (shift.chronicle.conclude task call.ending
      ⟨shift.chronicle.now - call.since⟩).upgrades = shift.chronicle.upgrades := by
    cases call.ending <;> rfl
  rw [concludeShift under]
  refine ⟨?_, ?_, ?_, ?_, tally.conclude _ _ _⟩
  · rw [inFlight, ← jobs, List.eraseIdx_map]
  · rw [told, received]
    exact asked.trans ((foundAt under Job.waiting?).append_left _)
  · rw [told, concludeOutcomes, List.append_assoc]
    exact ended.trans ((foundAt under Job.underWay?).append_left _)
  · rw [panicked, lost, concludeOutcomes, List.countP_append, List.countP_singleton]
    simp only [decide_eq_true_eq]

theorem Takes.accounts (takes : Takes scenario shift next) (accounts : Accounts scenario shift) :
    Accounts scenario next := by
  cases takes with
  | call waiting => exact accounts.goOut waiting
  | passing steps received inFlight panicked =>
    exact ⟨accounts.jobs.trans inFlight.symm, received ▸ accounts.asked, accounts.ended,
      panicked ▸ accounts.lost, accounts.tally⟩
  | @receiving task rest pool steps first =>
    obtain ⟨jobs, asked, ended, lost, tally⟩ := accounts
    cases steps with
    | receive found held =>
      cases first.symm.trans found
      refine ⟨by simp [jobs], ?_, ?_, lost, tally⟩
      · rw [List.filterMap_append, ← List.append_assoc]
        exact asked.append_right [task]
      · have idle : [(⟨task, none⟩ : Job)].filterMap Job.underWay? = [] := rfl
        simpa [idle] using ended
  | @ending place task call pool steps under =>
    by_cases panics : call.ending = .panics
    · rw [Call.event, if_pos panics] at steps
      cases steps with
      | panic => exact accounts.conclude under rfl rfl (by simp [panics])
    · rw [Call.event, if_neg panics] at steps
      cases steps with
      | finish => exact accounts.conclude under rfl rfl (by simp [panics])

structure Works (scenario : Scenario) (staff : Nat) (tasks : List Task) (shift : Shift) : Prop where
  shares : Pool.Shares staff tasks shift.pool
  accounts : Accounts scenario shift

variable {staff : Nat} {tasks : List Task}

theorem stepTakes (stepped : shift.step? scenario schedule = some next) :
    ∃ time, Takes scenario (shift.waitUntil scenario.progressPeriod time) next := by
  obtain ⟨turn, _, taken⟩ := List.exists_of_findSome?_eq_some stepped
  exact takeTaken taken

theorem Works.step (works : Works scenario staff tasks shift)
    (stepped : shift.step? scenario schedule = some next) : Works scenario staff tasks next := by
  obtain ⟨time, takes⟩ := stepTakes stepped
  refine ⟨?_, takes.accounts (works.accounts.wait _ _)⟩
  rcases takes.pool with same | ⟨event, steps⟩
  · rw [same, waitPool]
    exact works.shares
  · rw [waitPool] at steps
    exact works.shares.step steps

theorem Works.run (works : Works scenario staff tasks shift) (fuel : Nat) :
    Works scenario staff tasks (shift.run scenario schedule fuel) := by
  induction fuel generalizing shift with
  | zero => exact works
  | succ fuel ih =>
    rw [Shift.run]
    split
    · rename_i next stepped
      exact ih (works.step stepped)
    · exact works

theorem runRests {fuel : Nat} (enough : shift.turnsLeft ≤ fuel) :
    (shift.run scenario schedule fuel).step? scenario schedule = none := by
  induction fuel generalizing shift with
  | zero =>
    rw [Shift.run, Option.eq_none_iff_forall_ne_some]
    intro next stepped
    obtain ⟨time, takes⟩ := stepTakes stepped
    have fewer := takes.turnsLeftDecrease
    rw [waitTurnsLeft] at fewer
    omega
  | succ fuel ih =>
    rw [Shift.run]
    split
    · rename_i next stepped
      obtain ⟨time, takes⟩ := stepTakes stepped
      have fewer := takes.turnsLeftDecrease
      rw [waitTurnsLeft] at fewer
      exact ih (by omega)
    · assumption

theorem earliestFound {jobs : List Job} {place : Nat} {call : Call}
    (found : earliest? jobs = some (place, call)) :
    ∃ task, jobs[place]? = some ⟨task, some call⟩ := by
  induction jobs generalizing place call with
  | nil => cases found
  | cons job rest ih =>
    obtain ⟨task, under⟩ := job
    have behind {place : Nat} {call : Call} (later : earliest? rest = some (place, call)) :
        ∃ task, (⟨task, under⟩ :: rest)[place + 1]? = some (⟨task, some call⟩ : Job) := ih later
    cases under <;> cases later : earliest? rest <;>
      simp only [earliest?, later, Option.map_none, Option.map_some] at found
    case none.none => cases found
    case none.some =>
      cases found
      exact ih later
    case some.none =>
      cases found
      exact ⟨task, rfl⟩
    case some.some =>
      split at found
      · cases found
        exact ih later
      · cases found
        exact ⟨task, rfl⟩

theorem earliestMissing {jobs : List Job} (missing : earliest? jobs = none) :
    ∀ job ∈ jobs, job.call = none := by
  induction jobs with
  | nil => nofun
  | cons job rest ih =>
    obtain ⟨task, under⟩ := job
    cases under <;> cases later : earliest? rest <;>
      simp only [earliest?, later, Option.map_none, Option.map_some] at missing
    case none.none => simpa using ih later
    case none.some => cases missing
    case some.none => cases missing
    case some.some => split at missing <;> cases missing

theorem stepRefused (rests : shift.step? scenario schedule = none) {event : Pool.Event}
    (wanted : Turn.pool event ∈ shift.wanted) (allowed : shift.allows event = true)
    (pool : Pool Task) : ¬Steps shift.pool event pool := by
  intro steps
  have refused := List.findSome?_eq_none_iff.1 rests _ (List.mem_append_right _ wanted)
  simp [Shift.take, allowed, stepTaken.2 steps] at refused

theorem allCalled (rests : shift.step? scenario schedule = none) :
    ∀ job ∈ shift.jobs, job.call ≠ none := by
  cases out : shift.jobs.findIdx? (·.call.isNone) with
  | none =>
    intro job among missing
    have called := List.findIdx?_eq_none_iff.1 out job among
    simp [missing] at called
  | some place =>
    have wanted : Turn.call place ∈ shift.wanted := by simp [Shift.wanted, out]
    have refused := List.findSome?_eq_none_iff.1 rests _ (List.mem_append_right _ wanted)
    obtain ⟨inside, waiting, _⟩ := List.findIdx?_eq_some_iff_getElem.1 out
    obtain ⟨task, found⟩ : ∃ task, shift.jobs[place]? = some ⟨task, none⟩ :=
      ⟨shift.jobs[place].task, by
        rw [List.getElem?_eq_getElem inside, ← Option.isNone_iff_eq_none.1 waiting]⟩
    simp [Shift.take, found] at refused

section
variable (works : Works scenario staff tasks shift)
  (rests : shift.step? scenario schedule = none)
include works rests

theorem Works.noneFlying : shift.jobs = [] := by
  cases ending : earliest? shift.jobs with
  | none =>
    refine List.eq_nil_iff_forall_not_mem.2 fun job among => ?_
    exact allCalled rests job among (earliestMissing ending job among)
  | some first =>
    obtain ⟨place, call⟩ := first
    obtain ⟨task, found⟩ := earliestFound ending
    have wanted : Turn.pool (call.event place) ∈ shift.wanted := by simp [Shift.wanted, ending]
    have flying : shift.pool.inFlight[place]? = some task := by
      rw [← works.accounts.jobs, List.getElem?_map, found]
      rfl
    exfalso
    have refused := stepRefused rests wanted (eventAllowed found)
    by_cases panics : call.ending = .panics
    · rw [Call.event, if_pos panics] at refused
      exact refused _ (.panic flying)
    · rw [Call.event, if_neg panics] at refused
      exact refused _ (.finish flying)

theorem Works.done (positive : 0 < staff) : shift.pool.Done := by
  by_contra unfinished
  have quiet : shift.pool.inFlight = [] := by
    rw [← works.accounts.jobs, works.noneFlying rests]
    rfl
  obtain ⟨event, among, pool, steps⟩ := works.shares.movesPromptly positive quiet unfinished
  simp only [Pool.prompt, List.mem_cons, List.not_mem_nil, or_false] at among
  refine stepRefused rests ?_ ?_ pool steps
  · rcases among with rfl | rfl | rfl | rfl | rfl | rfl | rfl <;> simp [Shift.wanted]
  · rcases among with rfl | rfl | rfl | rfl | rfl | rfl | rfl <;> rfl

end

variable {chronicle : Chronicle}

theorem worksBegin (fresh : chronicle.upgrades = []) (silent : chronicle.outcomes = [])
    (tally : Tallies [] chronicle.report) :
    Works scenario staff tasks (.begin staff tasks chronicle) where
  shares := Pool.sharesStart staff tasks
  accounts :=
    { jobs := rfl
      asked := by simp [Shift.begin, Pool.start, fresh]
      ended := by simp [Shift.begin, Scenario.endings, fresh, silent]
      lost := by simp [Shift.begin, Pool.start, silent]
      tally := by simpa [Shift.begin, silent] using tally }

theorem workedThrough (scenario : Scenario) (schedule : Schedule) (tasks : List Task)
    (chronicle : Chronicle) (positive : 0 < staff) (fresh : chronicle.upgrades = [])
    (silent : chronicle.outcomes = []) (tally : Tallies [] chronicle.report) :
    let last := (scenario.workThrough schedule staff tasks chronicle).chronicle
    (scenario.endings last.upgrades).Perm last.outcomes ∧ Tallies last.outcomes last.report ∧
      ((last.outcomes.countP fun outcome => outcome.2 = .panics) < staff →
        last.upgrades.Perm tasks) := by
  intro last
  have works : Works scenario staff tasks (scenario.workThrough schedule staff tasks chronicle) :=
    (worksBegin fresh silent tally).run _
  have rests : (scenario.workThrough schedule staff tasks chronicle).step? scenario schedule = none :=
    runRests (Nat.le_refl _)
  have none := works.noneFlying rests
  obtain ⟨jobs, asked, ended, lost, tally⟩ := works.accounts
  rw [none, List.filterMap_nil, List.append_nil] at asked ended
  refine ⟨ended, tally, fun few => ?_⟩
  rw [← lost] at few
  have all := works.shares.allReceived (works.done rests positive) few
  exact asked.symm.trans (.of_eq all.1)

end BrokerVault.Upgrade
