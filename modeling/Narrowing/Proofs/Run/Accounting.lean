import Mathlib.Data.List.Perm.Basic
import Narrowing.Proofs.Run.Nodes

/-!
# Every check is accounted for

A run makes each check of a forest at most once, and those that it does not make are below a check
that was rejected. The log and the report tell which checks were made and how they fared: there is
one record at the level of checks for each check that is made, one error for each check that is
rejected, and one remark for each rejected test that guards anything.
-/

namespace Narrowing

namespace Step

/-- The nodes that a step leaves out: those below it, if its check is rejected. -/
def skipped (step : Step) : List Node :=
  if step.accepted then [] else Check.nodes step.position 0 step.check.guarded

/-- An accepted check reports nothing of its own. -/
theorem diagnostics_of_accepted {step : Step} (h : step.accepted = true) :
    step.diagnostics = [] := by
  obtain ⟨narrowing, hjudge⟩ := accepted_eq_true_iff.mp h
  simp [diagnostics, hjudge]

/-- A rejected check reports its failure. -/
theorem diagnostics_of_rejected {step : Step} (h : step.accepted = false) :
    ∃ failure, step.diagnostics = step.check.rejection failure := by
  cases hjudge : step.runner.judge step.check with
  | ok narrowing =>
    rw [accepted_eq_true_iff.mpr ⟨narrowing, hjudge⟩] at h
    cases h
  | error failure => exact ⟨failure, by simp [diagnostics, hjudge]⟩

/-- A step reports an error exactly when its check is rejected, and no more than one. -/
theorem countP_diagnostics (step : Step) :
    step.diagnostics.countP (·.severity = .error) = if step.accepted then 0 else 1 := by
  cases haccepted : step.accepted with
  | true => simp [diagnostics_of_accepted haccepted]
  | false =>
    obtain ⟨failure, hdiagnostics⟩ := diagnostics_of_rejected haccepted
    rw [hdiagnostics, Check.countP_rejection]
    rfl

end Step

/-- Steps report as many errors as checks are rejected. -/
theorem Step.countP_flatMap_diagnostics (steps : List Step) :
    (steps.flatMap diagnostics).countP (·.severity = .error) = steps.countP (!·.accepted) := by
  induction steps with
  | nil => rfl
  | cons step rest ih =>
    rw [List.flatMap_cons, List.countP_append, List.countP_cons, countP_diagnostics, ih,
      Nat.add_comm]
    cases step.accepted <;> rfl

/-- Steps and the nodes that they leave out, counted together. -/
theorem Step.length_flatMap_node_skipped (steps : List Step) :
    (steps.flatMap fun step => step.node :: step.skipped).length =
      steps.countP (·.accepted) + steps.countP (!·.accepted) + (steps.flatMap skipped).length := by
  have hmade : steps.length = steps.countP (·.accepted) + steps.countP (!·.accepted) := by
    simpa using List.length_eq_countP_add_countP (·.accepted) (l := steps)
  rw [← (List.map_append_flatMap_perm steps node skipped).length_eq, List.length_append,
    List.length_map, hmade]

/-- Membership tests leave no records of the level at which checks are announced. -/
theorem level_ne_info_of_mem_membershipRecords {members : List Ty} {type : Ty} {record : Record}
    (h : record ∈ membershipRecords members type) : record.level ≠ .info := by
  rw [List.mem_singleton.mp h]
  exact Level.noConfusion

namespace Checker

/-- No such records come from assignments. -/
theorem level_ne_info_of_mem_assignmentRecords {symbol : Symbol} {value : Ty} {record : Record}
    (h : record ∈ assignmentRecords symbol value) : record.level ≠ .info := by
  obtain ⟨name, declared⟩ := symbol
  rcases List.mem_cons.mp h with rfl | hrule
  · exact Level.noConfusion
  · cases declared with
    | nominal _ => cases hrule
    | union members => exact level_ne_info_of_mem_membershipRecords hrule

/-- No such records come from tests, whether they narrow or not. -/
theorem level_ne_info_of_mem_testRecords {checker : Checker} {subject target : Ty} {record : Record}
    (h : record ∈ checker.testRecords subject target) : record.level ≠ .info := by
  rcases List.mem_cons.mp h with rfl | hrule
  · exact Level.noConfusion
  · cases subject with
    | nominal _ => cases hrule
    | union members =>
      rcases List.mem_append.mp hrule with hscan | hnarrowed
      · exact level_ne_info_of_mem_membershipRecords hscan
      · by_cases hcontains : checker.contains members target = true
        · rw [if_pos hcontains, List.mem_singleton] at hnarrowed
          rw [hnarrowed]
          exact Level.noConfusion
        · simp [hcontains] at hnarrowed

/-- No such records come from accesses. -/
theorem level_ne_info_of_mem_accessRecords {subject : Ty} {field : String} {record : Record}
    (h : record ∈ accessRecords subject field) : record.level ≠ .info := by
  rw [List.mem_singleton.mp h]
  exact Level.noConfusion

end Checker

/-- The rules leave no records of the level at which checks are announced. -/
theorem Runner.level_ne_info_of_mem_ruleRecords {runner : Runner} {check : Check} {record : Record}
    (h : record ∈ runner.ruleRecords check) : record.level ≠ .info := by
  cases check with
  | assign name value =>
    simp only [ruleRecords] at h
    split at h
    · exact Checker.level_ne_info_of_mem_assignmentRecords h
    · cases h
  | test subject target guarded =>
    simp only [ruleRecords] at h
    split at h
    · exact Checker.level_ne_info_of_mem_testRecords h
    · cases h
  | access subject field =>
    simp only [ruleRecords] at h
    split at h
    · exact Checker.level_ne_info_of_mem_accessRecords h
    · cases h

/-- The records of a step announce its check once. -/
theorem Step.filter_info_records (step : Step) :
    step.records.filter (·.level = .info) = [⟨.info, s!"check: {step.check.text}"⟩] := by
  have hrule : (step.runner.ruleRecords step.check).filter (·.level = .info) = [] := by
    rw [List.filter_eq_nil_iff]
    intro record hrecord
    simpa using Runner.level_ne_info_of_mem_ruleRecords hrecord
  rw [records, List.filter_cons_of_pos (by rfl), hrule]

namespace Runner

/-- What becomes of the checks of a forest, and what the log and the report say about them. -/
structure Accounted (runner : Runner) (checks : List Check) : Prop where
  /-- The nodes are listed in ascending order of their positions, so each of them comes before those
  that it guards and after those of its earlier siblings. -/
  ascending : (Check.nodes [] 0 checks).Pairwise fun node later => node.position < later.position
  /-- In this order, each node is either made or left out at exactly one rejected check. -/
  nodes : Check.nodes [] 0 checks =
    (runner.steps [] 0 checks).flatMap fun step => step.node :: step.skipped
  /-- A node is made exactly when all tests that guard it are made and accepted. -/
  made_iff : ∀ node ∈ Check.nodes [] 0 checks,
    node ∈ (runner.steps [] 0 checks).map Step.node ↔
      ∀ outer ∈ Check.nodes [] 0 checks, outer.Guards node →
        ∃ step ∈ runner.steps [] 0 checks, step.node = outer ∧ step.accepted = true
  /-- Each check that is made is announced once, in order. -/
  log : (runner.runChecks checks).log.filter (·.level = .info) =
    runner.log.filter (·.level = .info) ++
      (runner.steps [] 0 checks).map fun step => ⟨.info, s!"check: {step.check.text}"⟩
  /-- The report takes up what the checks that are made have to report, in order. -/
  report : (runner.runChecks checks).report.diagnostics =
    runner.report.diagnostics ++ (runner.steps [] 0 checks).flatMap Step.diagnostics
  /-- An accepted check has nothing to report. -/
  accepted : ∀ step ∈ runner.steps [] 0 checks, step.accepted = true → step.diagnostics = []
  /-- A rejected check reports one error, whose last note names the check, and after it, if the
  check guards any others, one remark that counts those that it guards directly. -/
  rejected : ∀ step ∈ runner.steps [] 0 checks, step.accepted = false →
    ∃ error : Diagnostic, error.severity = .error ∧
      error.notes.getLast? = some s!"while checking `{step.check.text}`" ∧
      step.diagnostics = error ::
        match step.check.guarded.length with
        | 0 => []
        | 1 => [{
            severity := .note
            kind? := none
            message := s!"skipped 1 check guarded by `{step.check.text}`"
            notes := [] }]
        | count => [{
            severity := .note
            kind? := none
            message := s!"skipped {count} checks guarded by `{step.check.text}`"
            notes := [] }]
  /-- The error count grows by the number of rejected checks. -/
  errorCount : (runner.runChecks checks).report.errorCount =
    runner.report.errorCount + (runner.steps [] 0 checks).countP (!·.accepted)
  /-- Accepted checks, rejected checks and those below rejected checks are all checks there are. -/
  count : (runner.steps [] 0 checks).countP (·.accepted) +
      (runner.steps [] 0 checks).countP (!·.accepted) +
      ((runner.steps [] 0 checks).flatMap Step.skipped).length =
    (Check.nodes [] 0 checks).length

/-- The nodes of a forest are those of the steps, each followed by the ones that are left out
there. -/
theorem nodes_eq_flatMap_steps (runner : Runner) (checks : List Check) :
    Check.nodes [] 0 checks =
      (runner.steps [] 0 checks).flatMap fun step => step.node :: step.skipped := by
  rw [Context.nodes_eq_flatMap_visits runner.context runner.scope,
    ← (steps_visits runner [] 0 checks).1, List.flatMap_map]
  apply List.flatMap_congr
  intro step hstep
  rw [Step.skipped, accepted_eq hstep]
  rfl

/-- Every run accounts for its checks. -/
theorem runChecks_accounted (runner : Runner) (checks : List Check) :
    runner.Accounted checks where
  ascending := Check.nodes_ascending [] 0 checks
  nodes := nodes_eq_flatMap_steps runner checks
  made_iff := by
    intro node hnode
    have hvisits := (steps_visits runner [] 0 checks).1
    have hmade : (runner.steps [] 0 checks).map Step.node =
        (runner.context.visits runner.scope [] 0 checks).map Visit.node := by
      rw [← hvisits, List.map_map]
      rfl
    rw [hmade, Context.mem_visits_iff hnode]
    refine forall_congr' fun outer => forall_congr' fun _ => forall_congr' fun _ => ?_
    rw [← hvisits]
    constructor
    · rintro ⟨visit, hvisit, heq, haccepts⟩
      obtain ⟨step, hstep, rfl⟩ := List.mem_map.mp hvisit
      exact ⟨step, hstep, heq, by rw [accepted_eq hstep, haccepts]⟩
    · rintro ⟨step, hstep, heq, haccepted⟩
      exact ⟨step.visit, List.mem_map_of_mem hstep, heq, by rw [← accepted_eq hstep, haccepted]⟩
  log := by
    rw [runChecks_eq_after runner [] 0, after, List.filter_append, List.filter_flatMap,
      List.map_eq_flatMap]
    simp only [Step.filter_info_records]
  report := by
    rw [runChecks_eq_after runner [] 0, after, Report.foldl_add]
  accepted := fun step _ haccepted => Step.diagnostics_of_accepted haccepted
  rejected := by
    intro step _ hrejected
    obtain ⟨failure, hdiagnostics⟩ := Step.diagnostics_of_rejected hrejected
    exact ⟨(Diagnostic.ofFailure failure).addNote s!"while checking `{step.check.text}`", rfl, rfl,
      hdiagnostics⟩
  errorCount := by
    rw [runChecks_eq_after runner [] 0, after, Report.foldl_add, Step.countP_flatMap_diagnostics]
  count := by
    rw [nodes_eq_flatMap_steps runner checks, Step.length_flatMap_node_skipped]

end Runner

end Narrowing
