import BrokerVault.Proofs.Upgrade.Shifts

/-! The accounts of a bulk upgrade. One that is refused calls for no upgrade and names what is wrong
first. Any other calls once for each instance that can be upgraded, and its summary tells how the
calls ended, in whatever order the workers came to them. -/
namespace BrokerVault.Upgrade

def faultOf? {α : Type} : Except UpgradeError α → Option UpgradeError
  | .error error => some error
  | .ok _ => none

def Scenario.refusal? (scenario : Scenario) (broker : String) (batchSize : Nat) :
    Option UpgradeError :=
  [faultOf? (checkBroker broker), faultOf? (checkBatchSize batchSize), faultOf? scenario.apiVersion,
    faultOf? (scenario.apiVersion.bind checkApiVersion), faultOf? scenario.plans,
    faultOf? scenario.instances].findSome? id

def upgradable (instances : List ServiceInstance) : List ServiceInstance :=
  instances.filter (·.upgradeAvailable)

def lastVersion (plans : List Plan) (guid : String) : String :=
  (((plans.filter (·.guid == guid)).getLast?).map (·.maintenanceVersion)).getD ""

theorem targetIsLast (plans : List Plan) (guid : String) :
    targetVersion plans guid = lastVersion plans guid := by
  rw [targetVersion, lastVersion, ← List.head?_filter, List.filter_reverse, List.head?_reverse]
  cases (plans.filter (·.guid == guid)).getLast? <;> rfl

structure Accounted (scenario : Scenario) (plans : List Plan) (instances : List ServiceInstance)
    (summary : Summary) (chronicle : Chronicle) : Prop where
  total : summary.total = instances.length
  upgradable : summary.upgradable = (upgradable instances).length
  called : chronicle.upgrades.Perm
    ((Upgrade.upgradable instances).map fun found => ⟨found.guid, lastVersion plans found.planGuid⟩)
  told : (scenario.endings chronicle.upgrades).Perm chronicle.outcomes
  succeeded : summary.succeeded =
    (scenario.endings chronicle.upgrades).countP fun outcome => outcome.2 = .succeeds
  failing : ∀ guid, guid ∈ summary.failed.names ↔
    ∃ version error, (⟨guid, version⟩, .fails error) ∈ scenario.endings chronicle.upgrades
  failed : ∀ guid, summary.failed.get? guid = lastFailure? chronicle.outcomes guid
  once : summary.failed.Ascending
  balanced : ((Upgrade.upgradable instances).map (·.guid)).Nodup →
    summary.succeeded + summary.failed.length = summary.upgradable

variable {scenario : Scenario} {schedule : Schedule} {broker : String} {batchSize : Nat}

theorem runBind {α β σ : Type} (first : ExceptT UpgradeError (StateM σ) α)
    (rest : α → ExceptT UpgradeError (StateM σ) β) (state : σ) :
    (first >>= rest).run.run state =
      match (first.run.run state).1 with
      | .ok value => (rest value).run.run (first.run.run state).2
      | .error error => (.error error, (first.run.run state).2) := by
  rw [ExceptT.run_bind, StateT.run_bind]
  rcases first.run.run state with ⟨_ | _, after⟩ <;> rfl

theorem runChecked {α σ : Type} (value : Except UpgradeError α) (state : σ) :
    (ExceptT.mk (pure value : StateM σ _)).run.run state = (value, state) := rfl

theorem runLifted {α σ : Type} (action : StateM σ α) (state : σ) :
    ((ExceptT.lift action : ExceptT UpgradeError _ α).run.run state) =
      (.ok (action.run state).1, (action.run state).2) := rfl

theorem runApiVersion (chronicle : Chronicle) :
    (ExceptT.mk (scenario.upgrader schedule).apiVersion).run.run chronicle =
      (scenario.apiVersion, chronicle.ask .apiVersion) := rfl

theorem runPlans (broker : String) (chronicle : Chronicle) :
    (ExceptT.mk ((scenario.upgrader schedule).plans broker)).run.run chronicle =
      (scenario.plans, chronicle.ask (.plans broker)) := rfl

theorem runInstances (plans : List String) (chronicle : Chronicle) :
    (ExceptT.mk ((scenario.upgrader schedule).instances plans)).run.run chronicle =
      (scenario.instances, chronicle.ask (.instances plans)) := rfl

inductive Begins (scenario : Scenario) (schedule : Schedule) (broker : String) (batchSize : Nat) :
    Except UpgradeError Summary × Chronicle → Prop where
  | refused {error chronicle} (first : scenario.refusal? broker batchSize = some error)
      (nothing : chronicle.upgrades = []) :
      Begins scenario schedule broker batchSize (.error error, chronicle)
  | granted {plans instances chronicle} (sound : scenario.refusal? broker batchSize = none)
      (positive : 0 < batchSize)
      (known : scenario.plans = .ok plans) (found : scenario.instances = .ok instances)
      (fresh : chronicle.upgrades = []) (silent : chronicle.outcomes = [])
      (blank : chronicle.report = .empty) :
      Begins scenario schedule broker batchSize
        (((upgradeFound (scenario.upgrader schedule) batchSize plans instances).run chronicle).map
          .ok id)

theorem begins (scenario : Scenario) (schedule : Schedule) (broker : String) (batchSize : Nat) :
    Begins scenario schedule broker batchSize (scenario.upgradeAll schedule broker batchSize) := by
  simp only [Scenario.upgradeAll, Upgrade.upgradeAll, runBind, runChecked, runLifted, runApiVersion,
    runPlans, runInstances]
  rcases name : checkBroker broker with error | _
  · exact .refused (by simp [Scenario.refusal?, faultOf?, name]) rfl
  rcases size : checkBatchSize batchSize with error | _
  · exact .refused (by simp [Scenario.refusal?, faultOf?, name, size]) rfl
  rcases told : scenario.apiVersion with error | version
  · exact .refused (by simp [Scenario.refusal?, faultOf?, name, size, told]) rfl
  rcases recent : checkApiVersion version with error | _
  · have first : scenario.refusal? broker batchSize = some error := by
      simp [Scenario.refusal?, faultOf?, name, size, told, Except.bind, recent]
    simp only [recent]
    exact .refused first rfl
  rcases known : scenario.plans with error | plans
  · have first : scenario.refusal? broker batchSize = some error := by
      simp [Scenario.refusal?, faultOf?, name, size, told, Except.bind, recent, known]
    simp only [recent]
    exact .refused first rfl
  rcases found : scenario.instances with error | instances
  · have first : scenario.refusal? broker batchSize = some error := by
      simp [Scenario.refusal?, faultOf?, name, size, told, Except.bind, recent, known, found]
    simp only [recent]
    exact .refused first rfl
  · have sound : scenario.refusal? broker batchSize = none := by
      simp [Scenario.refusal?, faultOf?, name, size, told, Except.bind, recent, known, found]
    have positive : 0 < batchSize := by
      by_contra zero
      simp [checkBatchSize, refuse, Nat.eq_zero_of_not_pos zero] at size
    simp only [recent]
    exact .granted sound positive known found rfl rfl rfl

theorem endingsTasks (scenario : Scenario) (tasks : List Task) :
    (scenario.endings tasks).map Prod.fst = tasks := by
  refine List.ext_getElem (by simp [Scenario.endings]) fun place _ _ => ?_
  simp [Scenario.endings]

theorem failureOfGuid {outcome : Task × Ending} {guid : String} :
    (failureOf? guid outcome).isSome ↔
      ∃ version error, outcome = (⟨guid, version⟩, .fails error) := by
  obtain ⟨⟨name, version⟩, ending⟩ := outcome
  cases ending with
  | fails error => by_cases same : name = guid <;> simp [failureOf?, same]
  | succeeds => simp [failureOf?]
  | panics => simp [failureOf?]

section
variable (calm : ∀ number task, (scenario.course number task).ending ≠ .panics)
include calm

theorem endingsCalm {tasks : List Task} {outcome : Task × Ending}
    (among : outcome ∈ scenario.endings tasks) : outcome.2 ≠ .panics := by
  obtain ⟨number, _, rfl⟩ := List.mem_mapIdx.1 among
  exact calm number _

theorem accountedBy {plans : List Plan} {instances : List ServiceInstance} {chronicle : Chronicle}
    {report : Report} (called : chronicle.upgrades.Perm (tasks plans instances))
    (told : (scenario.endings chronicle.upgrades).Perm chronicle.outcomes)
    (tallies : Tallies chronicle.outcomes report) :
    Accounted scenario plans instances
      ⟨instances.length, (tasks plans instances).length, report.successes, report.failures⟩
      chronicle where
  total := rfl
  upgradable := List.length_map _
  called := by simpa only [tasks, targetIsLast, Upgrade.upgradable] using called
  told := told
  succeeded := tallies.successes.trans (told.symm.countP_eq _)
  failing guid := by
    rw [NameMap.memNames, tallies.failures, lastFailureFound]
    constructor
    · rintro ⟨outcome, among, fails⟩
      obtain ⟨version, error, rfl⟩ := failureOfGuid.1 fails
      exact ⟨version, error, told.mem_iff.2 among⟩
    · rintro ⟨version, error, among⟩
      exact ⟨_, told.mem_iff.1 among, failureOfGuid.2 ⟨version, error, rfl⟩⟩
  failed := tallies.failures
  once := tallies.ascending
  balanced distinct := by
    have names : (chronicle.outcomes.map Prod.fst).Perm (tasks plans instances) :=
      (told.symm.map Prod.fst).trans (endingsTasks scenario _ ▸ called)
    have guids := names.map (·.guid)
    rw [List.map_map, tasks, List.map_map] at guids
    have once := guids.nodup_iff.2 distinct
    have length := names.length_eq
    rw [List.length_map] at length
    exact (tallies.balanced once fun outcome among =>
      endingsCalm calm (told.mem_iff.2 among)).trans length

theorem foundAccounted (positive : 0 < batchSize) (plans : List Plan)
    (instances : List ServiceInstance) {chronicle : Chronicle} (fresh : chronicle.upgrades = [])
    (silent : chronicle.outcomes = []) (blank : chronicle.report = .empty) :
    let (summary, last) :=
      (upgradeFound (scenario.upgrader schedule) batchSize plans instances).run chronicle
    Accounted scenario plans instances summary last := by
  let ready := chronicle.record (.totals instances.length (tasks plans instances).length)
  cases none : (tasks plans instances).isEmpty with
  | true =>
    let last := ready.record (.note "no instances available to upgrade")
    have ran : (upgradeFound (scenario.upgrader schedule) batchSize plans instances).run chronicle =
        (⟨instances.length, (tasks plans instances).length, 0, []⟩, last) := by
      rw [upgradeFound, none]
      rfl
    rw [ran]
    have asked : last.upgrades = [] := fresh
    have quiet : last.outcomes = [] := silent
    have tallies : Tallies last.outcomes .empty := quiet ▸ talliesNothing
    refine accountedBy calm ?_ ?_ tallies
    · rw [asked, List.isEmpty_iff.1 none]
    · rw [asked, quiet]
      exact .nil
  | false =>
    let last := (scenario.workThrough schedule batchSize (tasks plans instances)
      (ready.record (.note "starting upgrade..."))).chronicle
    have ran : (upgradeFound (scenario.upgrader schedule) batchSize plans instances).run chronicle =
        (⟨instances.length, (tasks plans instances).length, last.report.successes,
          last.report.failures⟩, last.record .closing) := by
      rw [upgradeFound, none]
      rfl
    rw [ran]
    have tally : Tallies [] ready.report := (blank ▸ talliesNothing).target instances.length _
    obtain ⟨told, tallies, called⟩ := workedThrough scenario schedule (tasks plans instances)
      (ready.record (.note "starting upgrade...")) positive fresh silent tally
    refine accountedBy calm (called ?_) told tallies
    rw [List.countP_eq_zero.2 fun outcome among => ?_]
    · exact positive
    · simpa using endingsCalm calm (told.mem_iff.2 among)

end

/-- Whatever the order of the steps, the summary of a bulk upgrade accounts for every instance. -/
theorem upgradesAccounted (scenario : Scenario)
    (calm : ∀ number task, (scenario.course number task).ending ≠ .panics) (schedule : Schedule)
    (broker : String) (batchSize : Nat) :
    match scenario.upgradeAll schedule broker batchSize with
    | (.error error, chronicle) =>
      scenario.refusal? broker batchSize = some error ∧ chronicle.upgrades = []
    | (.ok summary, chronicle) =>
      scenario.refusal? broker batchSize = none ∧ ∃ plans instances,
        scenario.plans = .ok plans ∧ scenario.instances = .ok instances ∧
        Accounted scenario plans instances summary chronicle := by
  have ended := begins scenario schedule broker batchSize
  generalize scenario.upgradeAll schedule broker batchSize = result at ended
  cases ended with
  | refused first nothing => exact ⟨first, nothing⟩
  | @granted plans instances chronicle sound positive known found fresh silent blank =>
    exact ⟨sound, plans, instances, known, found,
      foundAccounted calm positive plans instances fresh silent blank⟩

def mixed : Scenario where
  apiVersion := .ok "3.100.0"
  plans := .ok [⟨"p", "1"⟩, ⟨"p", "2"⟩]
  instances := .ok [⟨"a", true, "p", none⟩, ⟨"b", true, "q", none⟩, ⟨"a", true, "p", none⟩,
    ⟨"c", false, "p", none⟩]
  course number _ := ⟨5, if number = 1 then .fails (.invalidInput "refused") else .succeeds⟩
  progressPeriod := 0

def crossing : Schedule := ⟨fun _ => [.pool (.finish 1)], fun _ _ => 3⟩

theorem mixedAccounted : (∀ number task, (mixed.course number task).ending ≠ .panics) ∧
    ∃ summary chronicle, mixed.upgradeAll crossing "broker" 2 = (.ok summary, chronicle) ∧
      summary.total = 4 ∧ summary.upgradable = 3 ∧ summary.succeeded = 2 ∧
      chronicle.upgrades.Perm [⟨"a", "2"⟩, ⟨"b", ""⟩, ⟨"a", "2"⟩] := by
  have calm : ∀ number task, (mixed.course number task).ending ≠ .panics := by
    intro number task
    simp only [mixed]
    split <;> nofun
  have accounts := upgradesAccounted mixed calm crossing "broker" 2
  have sound : mixed.refusal? "broker" 2 = none := by decide
  generalize mixed.upgradeAll crossing "broker" 2 = result at accounts ⊢
  obtain ⟨error | summary, chronicle⟩ := result
  · exact absurd (sound.symm.trans accounts.1) nofun
  · obtain ⟨_, plans, instances, known, found, accounted⟩ := accounts
    cases known
    cases found
    obtain ⟨one, two, three, upgrades⟩ := List.length_eq_three.1 accounted.called.length_eq
    have succeeded : summary.succeeded = 2 := by
      rw [accounted.succeeded, upgrades]
      rfl
    exact ⟨calm, summary, chronicle, rfl, accounted.total, accounted.upgradable, succeeded,
      accounted.called⟩

end BrokerVault.Upgrade
