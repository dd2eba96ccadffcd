import BrokerVault.Upgrade.Pool
import Mathlib.Data.List.Perm.Basic
import Mathlib.Tactic.Common

/-! What a pool of workers keeps in every order of its steps: no task is lost or handed out twice, the
workers that are left and the calls under way are no more than there were workers, and until both
sides have ended there is always a step to take. -/
namespace BrokerVault.Pool

variable {α : Type} {pool next : Pool α} {event : Event} {tasks : List α}

inductive Steps (pool : Pool α) : Event → Pool α → Prop where
  | send {task rest} (unsent : pool.unsent = task :: rest)
      (place : pool.channel.length < pool.size) (present : pool.returned = false) :
      Steps pool .send { pool with unsent := rest, channel := pool.channel ++ [task] }
  | hold {idle} (free : pool.idle = idle + 1) (loose : pool.held = false) :
      Steps pool .hold { pool with idle := idle, held := true }
  | receive {task rest} (first : pool.channel = task :: rest) (held : pool.held = true) :
      Steps pool .receive { pool with
        channel := rest
        received := pool.received ++ [task]
        inFlight := pool.inFlight ++ [task]
        held := false }
  | finish {place task} (found : pool.inFlight[place]? = some task) :
      Steps pool (.finish place) { pool with
        inFlight := pool.inFlight.eraseIdx place
        finished := pool.finished ++ [task]
        idle := pool.idle + 1 }
  | panic {place task} (found : pool.inFlight[place]? = some task) :
      Steps pool (.panic place) { pool with
        inFlight := pool.inFlight.eraseIdx place
        panicked := pool.panicked ++ [task] }
  | close (sent : pool.unsent = []) (working : pool.closed = false) :
      Steps pool .close { pool with closed := true }
  | retire (held : pool.held = true) (empty : pool.channel = []) (closed : pool.closed = true) :
      Steps pool .retire { pool with held := false }
  | leave (free : pool.idle = 0) (loose : pool.held = false) (quiet : pool.inFlight = [])
      (present : pool.returned = false) : Steps pool .leave { pool with returned := true }
  | abandon (left : pool.unsent ≠ []) (gone : pool.returned = true)
      (working : pool.closed = false) : Steps pool .abandon { pool with closed := true }

theorem stepTaken : pool.step event = some next ↔ Steps pool event next := by
  constructor
  · intro taken
    cases event with
    | send =>
      simp only [step] at taken
      split at taken
      · rename_i task rest unsent
        split at taken
        · rename_i fits
          cases taken
          exact .send unsent fits.1 (by simpa using fits.2)
        · cases taken
      · cases taken
    | hold =>
      simp only [step] at taken
      split at taken
      · rename_i idle free
        split at taken
        · rename_i loose
          cases taken
          exact .hold free (by simpa using loose)
        · cases taken
      · cases taken
    | receive =>
      simp only [step] at taken
      split at taken
      · rename_i task rest first
        split at taken
        · rename_i held
          cases taken
          exact .receive first held
        · cases taken
      · cases taken
    | finish place =>
      simp only [step] at taken
      split at taken
      · rename_i task found
        cases taken
        exact .finish found
      · cases taken
    | panic place =>
      simp only [step] at taken
      split at taken
      · rename_i task found
        cases taken
        exact .panic found
      · cases taken
    | close =>
      simp only [step] at taken
      split at taken
      · rename_i fits
        cases taken
        exact .close (by simpa using fits.1) (by simpa using fits.2)
      · cases taken
    | retire =>
      simp only [step] at taken
      split at taken
      · rename_i fits
        cases taken
        exact .retire fits.1 (by simpa using fits.2.1) fits.2.2
      · cases taken
    | leave =>
      simp only [step] at taken
      split at taken
      · rename_i fits
        cases taken
        exact .leave fits.1 (by simpa using fits.2.1) (by simpa using fits.2.2.1)
          (by simpa using fits.2.2.2)
      · cases taken
    | abandon =>
      simp only [step] at taken
      split at taken
      · rename_i fits
        cases taken
        exact .abandon (by simpa using fits.1) fits.2.1 (by simpa using fits.2.2)
      · cases taken
  · intro steps
    cases steps with
    | send unsent place present => simp [step, unsent, place, present]
    | hold free loose => simp [step, free, loose]
    | receive first held => simp [step, first, held]
    | finish found => simp [step, found]
    | panic found => simp [step, found]
    | close sent working => simp [step, sent, working]
    | retire held empty closed => simp [step, held, empty, closed]
    | leave free loose quiet present => simp [step, free, loose, quiet, present]
    | abandon left gone working => simp [step, left, gone, working]

theorem stepsLeftDecrease (steps : Steps pool event next) : next.stepsLeft < pool.stepsLeft := by
  cases steps with
  | send unsent place present =>
    simp [stepsLeft, unsent]
    omega
  | hold free loose =>
    simp [stepsLeft, free, loose]
    omega
  | receive first held =>
    simp [stepsLeft, first, held]
    omega
  | finish found =>
    have inside := (List.getElem?_eq_some_iff.1 found).1
    simp [stepsLeft, List.length_eraseIdx_of_lt inside]
    omega
  | panic found =>
    have inside := (List.getElem?_eq_some_iff.1 found).1
    simp [stepsLeft, List.length_eraseIdx_of_lt inside]
    omega
  | close sent working => simp [stepsLeft, working]
  | retire held empty closed => simp [stepsLeft, held]
  | leave free loose quiet present => simp [stepsLeft, present]
  | abandon left gone working => simp [stepsLeft, working]

def workers (pool : Pool α) : Nat := pool.idle + pool.held.toNat + pool.inFlight.length

def needed (pool : Pool α) : Nat := pool.workers + pool.panicked.length

structure Shares (staff : Nat) (tasks : List α) (pool : Pool α) : Prop where
  size : pool.size = staff
  order : pool.received ++ (pool.channel ++ pool.unsent) = tasks
  taken : pool.received.Perm (pool.inFlight ++ (pool.finished ++ pool.panicked))
  staffed : pool.needed ≤ staff
  served : pool.needed < staff → pool.channel = [] ∧ pool.unsent = []
  sent : pool.closed = true → pool.returned = false → pool.unsent = []
  deserted : pool.returned = true → pool.workers = 0

theorem sharesStart (staff : Nat) (tasks : List α) : Shares staff tasks (start staff tasks) where
  size := rfl
  order := rfl
  taken := .nil
  staffed := by simp [needed, workers, start]
  served := by simp [needed, workers, start]
  sent := by simp [start]
  deserted := by simp [start]

theorem neededAfter (steps : Steps pool event next) :
    next.needed = if event = .retire then pool.needed - 1 else pool.needed := by
  cases steps with
  | finish found | panic found =>
    have inside := (List.getElem?_eq_some_iff.1 found).1
    simp [needed, workers, List.length_eraseIdx_of_lt inside]
    omega
  | hold free loose =>
    simp [needed, workers, free, loose]
  | receive first held =>
    simp [needed, workers, held]
    omega
  | retire held empty closed =>
    simp [needed, workers, held]
    omega
  | send | close | leave | abandon => rfl

theorem orderAfter (steps : Steps pool event next) :
    next.received ++ (next.channel ++ next.unsent) =
      pool.received ++ (pool.channel ++ pool.unsent) := by
  cases steps with
  | send unsent => simp [unsent]
  | receive first => simp [first]
  | hold | finish | panic | close | retire | leave | abandon => rfl

theorem movedTo {list : List α} {place : Nat} {task : α} (found : list[place]? = some task)
    (front back : List α) :
    (list ++ (front ++ back)).Perm (list.eraseIdx place ++ (front ++ task :: back)) := by
  obtain ⟨inside, rfl⟩ := List.getElem?_eq_some_iff.1 found
  have taken := (List.getElem_cons_eraseIdx_perm inside).symm.append_right (front ++ back)
  have behind : (list.eraseIdx place ++ (front ++ list[place] :: back)).Perm
      (list[place] :: (list.eraseIdx place ++ (front ++ back))) :=
    (List.perm_middle.append_left _).trans List.perm_middle
  exact taken.trans behind.symm

theorem takenAfter (steps : Steps pool event next)
    (taken : pool.received.Perm (pool.inFlight ++ (pool.finished ++ pool.panicked))) :
    next.received.Perm (next.inFlight ++ (next.finished ++ next.panicked)) := by
  cases steps with
  | @receive task rest first held =>
    have behind := taken.append_right [task]
    rw [List.append_assoc] at behind ⊢
    exact behind.trans (List.perm_append_comm.append_left _)
  | finish found =>
    rw [List.append_assoc]
    exact taken.trans (movedTo found _ _)
  | @panic _ task found =>
    have moved := movedTo found (pool.finished ++ pool.panicked) []
    rw [List.append_nil, List.append_assoc] at moved
    exact taken.trans moved
  | send | hold | close | retire | leave | abandon => exact taken

section
variable {staff : Nat} (shares : Shares staff tasks pool)
include shares

theorem Shares.presentWithWorkers (some : pool.workers ≠ 0) : pool.returned = false := by
  cases gone : pool.returned with
  | false => rfl
  | true => exact (some (shares.deserted gone)).elim

theorem Shares.servedAfter (steps : Steps pool event next) (fewer : next.needed < staff) :
    next.channel = [] ∧ next.unsent = [] := by
  have kept (other : event ≠ .retire) : pool.channel = [] ∧ pool.unsent = [] := by
    refine shares.served ?_
    rwa [neededAfter steps, if_neg other] at fewer
  cases steps with
  | send unsent => simp [unsent] at kept
  | receive first => simp [first] at kept
  | retire held empty closed =>
    have present := shares.presentWithWorkers (by simp [workers, held])
    exact ⟨empty, shares.sent closed present⟩
  | hold | finish | panic | close | leave | abandon => exact kept nofun

theorem Shares.sentAfter (steps : Steps pool event next) (closed : next.closed = true)
    (present : next.returned = false) : next.unsent = [] := by
  cases steps with
  | send unsent =>
    have none := shares.sent closed present
    simp [unsent] at none
  | close none => exact none
  | abandon left gone => simp [gone] at present
  | leave => simp at present
  | hold | receive | finish | panic | retire => exact shares.sent closed present

theorem Shares.desertedAfter (steps : Steps pool event next) (gone : next.returned = true) :
    next.workers = 0 := by
  cases steps with
  | hold free =>
    have none := shares.deserted gone
    simp [workers, free] at none
  | receive _ held | retire held =>
    have none := shares.deserted gone
    simp [workers, held] at none
  | finish found | panic found =>
    have none := shares.deserted gone
    have inside := (List.getElem?_eq_some_iff.1 found).1
    simp only [workers] at none
    omega
  | leave free loose quiet => simp [workers, free, loose, quiet]
  | send | close | abandon => exact shares.deserted gone

theorem Shares.step (steps : Steps pool event next) : Shares staff tasks next where
  size := by cases steps <;> exact shares.size
  order := (orderAfter steps).trans shares.order
  taken := takenAfter steps shares.taken
  staffed := by
    have before := shares.staffed
    rw [neededAfter steps]
    split <;> omega
  served := shares.servedAfter steps
  sent := shares.sentAfter steps
  deserted := shares.desertedAfter steps

theorem Shares.run {events : List Event} {last : Pool α} (ran : pool.run events = some last) :
    Shares staff tasks last := by
  induction events generalizing pool with
  | nil =>
    cases ran
    exact shares
  | cons event rest ih =>
    obtain ⟨next, taken, ran⟩ := Option.bind_eq_some_iff.1 ran
    exact ih (shares.step (stepTaken.1 taken)) ran

def prompt : List Event := [.receive, .hold, .send, .close, .retire, .leave, .abandon]

theorem Shares.movesPromptly (positive : 0 < staff) (quiet : pool.inFlight = [])
    (unfinished : ¬pool.Done) : ∃ event ∈ prompt, ∃ next, Steps pool event next := by
  cases held : pool.held with
  | true =>
    have present := shares.presentWithWorkers (by simp [workers, held])
    cases first : pool.channel with
    | cons task rest => exact ⟨.receive, by simp [prompt], _, .receive first held⟩
    | nil =>
      cases closed : pool.closed with
      | true => exact ⟨.retire, by simp [prompt], _, .retire held first closed⟩
      | false =>
        cases unsent : pool.unsent with
        | nil => exact ⟨.close, by simp [prompt], _, .close unsent closed⟩
        | cons task rest =>
          have place : pool.channel.length < pool.size := by
            simpa [first, shares.size] using positive
          exact ⟨.send, by simp [prompt], _, .send unsent place present⟩
  | false =>
    cases free : pool.idle with
    | succ idle => exact ⟨.hold, by simp [prompt], _, .hold free held⟩
    | zero =>
      cases gone : pool.returned with
      | false => exact ⟨.leave, by simp [prompt], _, .leave free held quiet gone⟩
      | true =>
        have working : pool.closed = false := by simpa [Done, gone] using unfinished
        cases unsent : pool.unsent with
        | nil => exact ⟨.close, by simp [prompt], _, .close unsent working⟩
        | cons task rest =>
          exact ⟨.abandon, by simp [prompt], _, .abandon (by simp [unsent]) gone working⟩

theorem Shares.moves (positive : 0 < staff) (unfinished : ¬pool.Done) :
    ∃ event next, Steps pool event next := by
  cases flying : pool.inFlight with
  | cons task rest =>
    have first : pool.inFlight[0]? = some task := by simp [flying]
    exact ⟨.finish 0, _, .finish first⟩
  | nil =>
    obtain ⟨event, _, next, steps⟩ := shares.movesPromptly positive flying unfinished
    exact ⟨event, next, steps⟩

theorem Shares.finishes (positive : 0 < staff) :
    ∃ events last, pool.run events = some last ∧ last.Done := by
  -- On the number of steps that are left at most.
  induction left : pool.stepsLeft using Nat.strongRecOn generalizing pool with
  | ind left ih =>
    by_cases done : pool.Done
    · exact ⟨[], pool, rfl, done⟩
    · obtain ⟨event, next, steps⟩ := shares.moves positive done
      have fewer := left ▸ stepsLeftDecrease steps
      obtain ⟨events, last, ran, ended⟩ := ih _ fewer (shares.step steps) rfl
      exact ⟨event :: events, last, by rw [Pool.run, stepTaken.2 steps]; exact ran, ended⟩

theorem Shares.quietAtEnd (gone : pool.returned = true) : pool.inFlight = [] := by
  have none := shares.deserted gone
  simp only [workers] at none
  exact List.length_eq_zero_iff.1 (by omega)

theorem Shares.allReceived (done : pool.Done) (fewer : pool.panicked.length < staff) :
    pool.received = tasks ∧ pool.channel = [] ∧ pool.unsent = [] := by
  have none := shares.deserted done.1
  obtain ⟨channel, unsent⟩ := shares.served (by simpa [needed, none] using fewer)
  have order := shares.order
  rw [channel, unsent, List.append_nil, List.append_nil] at order
  exact ⟨order, channel, unsent⟩

theorem Shares.nothingReceived (steps : Steps pool event next)
    (all : pool.panicked.length = staff) :
    next.received = pool.received ∧ next.panicked.length = staff := by
  have limit := shares.staffed
  simp only [needed, workers] at limit
  cases steps with
  | receive _ held =>
    simp only [held, Bool.toNat_true] at limit
    omega
  | panic found =>
    have inside := (List.getElem?_eq_some_iff.1 found).1
    omega
  | send | hold | finish | close | retire | leave | abandon => exact ⟨rfl, all⟩

theorem Shares.nothingReceivedEver (all : pool.panicked.length = staff) {events : List Event}
    {last : Pool α} (ran : pool.run events = some last) : last.received = pool.received := by
  induction events generalizing pool with
  | nil =>
    cases ran
    rfl
  | cons event rest ih =>
    obtain ⟨next, taken, ran⟩ := Option.bind_eq_some_iff.1 ran
    have steps := stepTaken.1 taken
    obtain ⟨same, still⟩ := shares.nothingReceived steps all
    exact (ih (shares.step steps) still ran).trans same

end

theorem runTakesSteps {events : List Event} {last : Pool α} (ran : pool.run events = some last) :
    events.length + last.stepsLeft ≤ pool.stepsLeft := by
  induction events generalizing pool with
  | nil =>
    cases ran
    exact Nat.le_of_eq (Nat.zero_add _)
  | cons event rest ih =>
    obtain ⟨next, taken, ran⟩ := Option.bind_eq_some_iff.1 ran
    have fewer := stepsLeftDecrease (stepTaken.1 taken)
    have following := ih ran
    rw [List.length_cons]
    omega

/-- Whatever comes in which order: no task is lost or handed out twice, at most as many calls are
under way as there were workers, and the pool never stands still before both sides have ended. -/
theorem workersShareTasks {staff : Nat} (positive : 0 < staff) {events : List Event}
    (ran : (start staff tasks).run events = some pool) :
    tasks.Perm (pool.unsent ++ pool.channel ++ pool.inFlight ++ pool.finished ++ pool.panicked) ∧
    pool.received <+: tasks ∧
    pool.received.Perm (pool.inFlight ++ pool.finished ++ pool.panicked) ∧
    pool.inFlight.length ≤ staff ∧
    (pool.returned = true → pool.inFlight = []) ∧
    (¬pool.Done → ∃ event next, pool.step event = some next) ∧
    events.length + pool.stepsLeft ≤ (start staff tasks).stepsLeft ∧
    (∃ more last, pool.run more = some last ∧ last.Done) ∧
    (pool.Done → pool.panicked.length < staff →
      pool.received = tasks ∧ tasks.Perm (pool.finished ++ pool.panicked)) ∧
    (pool.panicked.length = staff →
      ∀ more last, pool.run more = some last → last.received = pool.received) := by
  have shares := (sharesStart staff tasks).run ran
  have taken := shares.taken
  rw [← List.append_assoc] at taken
  refine ⟨?_, ⟨_, shares.order⟩, taken, ?_, shares.quietAtEnd, ?_, runTakesSteps ran,
    shares.finishes positive, ?_, fun all _ _ => shares.nothingReceivedEver all⟩
  · have waiting : tasks.Perm (pool.unsent ++ pool.channel ++ pool.received) := by
      rw [← shares.order]
      exact List.perm_append_comm.trans (List.perm_append_comm.append_right _)
    have all := waiting.trans (taken.append_left (pool.unsent ++ pool.channel))
    simpa only [List.append_assoc] using all
  · have limit := shares.staffed
    simp only [needed, workers] at limit
    omega
  · intro unfinished
    obtain ⟨event, next, steps⟩ := shares.moves positive unfinished
    exact ⟨event, next, stepTaken.2 steps⟩
  · intro done fewer
    have all := (shares.allReceived done fewer).1
    rw [all, shares.quietAtEnd done.1, List.nil_append] at taken
    exact ⟨all, taken⟩

def oneLost : List Event :=
  [.send, .hold, .send, .receive, .hold, .receive, .send, .panic 0, .close, .finish 0, .hold,
    .receive, .finish 0, .hold, .retire, .leave]

def afterOneLost : Pool Nat :=
  ⟨2, [], [], [7, 8, 9], [], [8, 9], [7], 0, false, true, true⟩

theorem oneLostShared : 0 < 2 ∧ (start 2 [7, 8, 9]).run oneLost = some afterOneLost ∧
    [7, 8, 9].Perm ([] ++ [] ++ [] ++ [8, 9] ++ [7]) ∧ afterOneLost.received = [7, 8, 9] := by
  have ran : (start 2 [7, 8, 9]).run oneLost = some afterOneLost := by decide
  have ended : afterOneLost.Done ∧ afterOneLost.panicked.length < 2 := by decide
  obtain ⟨kept, _, _, _, _, _, _, _, all, _⟩ := workersShareTasks (by decide) ran
  exact ⟨by decide, ran, kept, (all ended.1 ended.2).1⟩

end BrokerVault.Pool
