import Mathlib.Data.List.Basic
import Narrowing.Proofs.Report.Collecting
import Narrowing.Proofs.Run.Scope

/-!
# The steps of a run

A runner makes checks one after the other and changes its state with each of them. Its steps are
the checks it makes, each with the state in which it is made. A run adds to the log and to the
report what its steps do, one after the other, and leaves all else as it was: every narrowing that
it puts on its stack is taken off again. The stack therefore spells out the lexical scope of each
step.
-/

namespace Narrowing

/-- A check that a runner makes. -/
structure Step where
  /-- The way to the check, as in a visit. -/
  position : List Nat
  /-- The runner that is about to make the check. -/
  runner : Runner
  /-- The check. -/
  check : Check

namespace Runner

/-- What the runner's checks have in common. -/
def context (runner : Runner) : Context := ⟨runner.checker, runner.symbols⟩

/-- The scope that the narrowings in force amount to. -/
def scope (runner : Runner) : Scope := fun name => runner.narrowings.lookup name

/-- The runner's verdict on a check: why it is rejected, or else the narrowing in force for the
checks that it guards. -/
def judge (runner : Runner) : Check → Except Failure (Option (String × Ty))
  | .assign name value => do
    runner.judgeAssignment name value
    return none
  | .test subject target _ => do
    let type ← runner.judgeTest subject target
    return subject.symbol?.map fun name => (name, type)
  | .access subject field => do
    runner.judgeAccess subject field
    return none

/-- Puts a narrowing in force. -/
def push (runner : Runner) (narrowing : Option (String × Ty)) : Runner :=
  { runner with narrowings := narrowing.toList ++ runner.narrowings }

mutual

/-- The step of a check, and those of the checks that it guards if it is accepted. -/
def stepsFrom (runner : Runner) (position : List Nat) : Check → List Step
  | .assign name value => [⟨position, runner, .assign name value⟩]
  | .test subject target guarded =>
    let announced := runner.announce (.test subject target guarded)
    ⟨position, runner, .test subject target guarded⟩ ::
      match runner.judgeTest subject target with
      | .ok type => (announced.enter subject type).steps position 0 guarded
      | .error _ => []
  | .access subject field => [⟨position, runner, .access subject field⟩]

/-- The steps of making the checks of a list, in order. -/
def steps (runner : Runner) (parent : List Nat) (index : Nat) : List Check → List Step
  | [] => []
  | check :: rest =>
    runner.stepsFrom (parent ++ [index]) check ++
      (runner.runCheck check).steps parent (index + 1) rest

end

end Runner

namespace Step

/-- Whether the check of a step is accepted. -/
def accepted (step : Step) : Bool := (step.runner.judge step.check).isOk

/-- A step is accepted when its check is, with whatever narrowing. -/
theorem accepted_eq_true_iff {step : Step} :
    step.accepted = true ↔ ∃ narrowing, step.runner.judge step.check = .ok narrowing := by
  unfold accepted
  cases step.runner.judge step.check <;> simp [Except.isOk, Except.toBool]

/-- The step without the runner's state: all that is left of it is the scope. -/
def visit (step : Step) : Visit := ⟨step.position, step.check, step.runner.scope⟩

/-- What a step adds to the report, apart from the steps inside it. -/
def diagnostics (step : Step) : List Diagnostic :=
  match step.runner.judge step.check with
  | .ok _ => []
  | .error failure => step.check.rejection failure

/-- What a step adds to the log, apart from the steps inside it. -/
def records (step : Step) : List Record :=
  ⟨.info, s!"check: {step.check.text}"⟩ :: step.runner.ruleRecords step.check

end Step

namespace Runner

/-- The steps inside a check: those of the checks it guards, with its narrowing in force, or none if
it is rejected. -/
def stepsInside (runner : Runner) (position : List Nat) (check : Check) : List Step :=
  match runner.judge check with
  | .ok narrowing => ((runner.announce check).push narrowing).steps position 0 check.guarded
  | .error _ => []

/-- The runner after a list of steps has added to its report and to its log. -/
def after (runner : Runner) (steps : List Step) : Runner :=
  { runner with
    report := (steps.flatMap Step.diagnostics).foldl Report.add runner.report
    log := runner.log ++ steps.flatMap Step.records }

/-- Takes a narrowing off again. -/
def pop (runner : Runner) (narrowing : Option (String × Ty)) : Runner :=
  { runner with narrowings := runner.narrowings.drop narrowing.toList.length }

theorem enter_eq_push (runner : Runner) (subject : Subject) (type : Ty) :
    runner.enter subject type = runner.push (subject.symbol?.map fun name => (name, type)) := by
  unfold enter push
  cases subject.symbol? <;> rfl

theorem leave_eq_pop (runner : Runner) (subject : Subject) (type : Ty) :
    runner.leave subject = runner.pop (subject.symbol?.map fun name => (name, type)) := by
  unfold leave pop
  cases subject.symbol? <;> simp

/-- Whatever happens to the log and to the report in between, a narrowing comes off as it was put
on. -/
theorem pop_after_push (runner : Runner) (narrowing : Option (String × Ty)) (steps : List Step) :
    ((runner.push narrowing).after steps).pop narrowing = runner.after steps := by
  cases narrowing <;> rfl

@[simp] theorem after_nil (runner : Runner) : runner.after [] = runner := by
  simp [after]

/-- Steps add to the log and to the report one after the other. -/
theorem after_append (runner : Runner) (first second : List Step) :
    runner.after (first ++ second) = (runner.after first).after second := by
  simp [after, List.append_assoc]

theorem judge_assign (runner : Runner) (name : String) (value : TypeRef) :
    runner.judge (.assign name value) =
      (runner.judgeAssignment name value).map fun _ => none := rfl

theorem judge_test (runner : Runner) (subject : Subject) (target : TypeRef)
    (guarded : List Check) :
    runner.judge (.test subject target guarded) =
      (runner.judgeTest subject target).map fun type =>
        subject.symbol?.map fun name => (name, type) := rfl

theorem judge_access (runner : Runner) (subject : Subject) (field : String) :
    runner.judge (.access subject field) =
      (runner.judgeAccess subject field).map fun _ => none := rfl

@[simp] theorem steps_nil (runner : Runner) (parent : List Nat) (index : Nat) :
    runner.steps parent index [] = [] := by
  simp only [steps]

/-- A check comes first, then come the checks inside it, and then its siblings. -/
theorem steps_cons (runner : Runner) (parent : List Nat) (index : Nat) (check : Check)
    (rest : List Check) :
    runner.steps parent index (check :: rest) =
      ⟨parent ++ [index], runner, check⟩ ::
        (runner.stepsInside (parent ++ [index]) check ++
          (runner.runCheck check).steps parent (index + 1) rest) := by
  cases check with
  | assign name value =>
    cases hjudge : runner.judge (.assign name value) <;>
      simp [steps, stepsFrom, stepsInside, hjudge, Check.guarded]
  | test subject target guarded =>
    cases hjudge : runner.judgeTest subject target <;>
      simp [steps, stepsFrom, stepsInside, judge_test, hjudge, Check.guarded, Except.map,
        enter_eq_push]
  | access subject field =>
    cases hjudge : runner.judge (.access subject field) <;>
      simp [steps, stepsFrom, stepsInside, hjudge, Check.guarded]

/-- What making a check comes to, for checks of all kinds. Only tests guard checks and narrow
symbols; for the other checks, running what is guarded and taking the narrowing off do nothing. -/
theorem runCheck_eq (runner : Runner) (check : Check) :
    runner.runCheck check =
      match runner.judge check with
      | .ok narrowing =>
        (((runner.announce check).push narrowing).runChecks check.guarded).pop narrowing
      | .error failure =>
        ((runner.announce check).reject check failure).skip check.guarded check := by
  cases check with
  | assign name value =>
    rw [judge_assign]
    cases hverdict : runner.judgeAssignment name value with
    | ok _ => simp [runCheck, runChecks, hverdict, Except.map, Check.guarded, push, pop]
    | error failure => simp [runCheck, hverdict, Except.map, Check.guarded, skip]
  | test subject target guarded =>
    rw [judge_test]
    cases hverdict : runner.judgeTest subject target with
    | ok type =>
      simp [runCheck, hverdict, Except.map, Check.guarded, enter_eq_push,
        leave_eq_pop _ subject type]
    | error failure => simp [runCheck, hverdict, Except.map, Check.guarded]
  | access subject field =>
    rw [judge_access]
    cases hverdict : runner.judgeAccess subject field with
    | ok _ => simp [runCheck, runChecks, hverdict, Except.map, Check.guarded, push, pop]
    | error failure => simp [runCheck, hverdict, Except.map, Check.guarded, skip]

/-- An accepted check is announced, and nothing is reported about it. -/
theorem announce_eq_after {runner : Runner} {check : Check} {narrowing : Option (String × Ty)}
    (hjudge : runner.judge check = .ok narrowing) (position : List Nat) :
    runner.announce check = runner.after [⟨position, runner, check⟩] := by
  simp [announce, addRecords, after, Step.diagnostics, Step.records, hjudge]

/-- A rejected check adds to the log and to the report, and that is all. -/
theorem reject_eq_after {runner : Runner} {check : Check} {failure : Failure}
    (hjudge : runner.judge check = .error failure) (position : List Nat) :
    ((runner.announce check).reject check failure).skip check.guarded check =
      runner.after [⟨position, runner, check⟩] := by
  by_cases hguarded : check.guarded.isEmpty = true
  · simp [skip, reject, fail, announce, addRecords, after, Step.diagnostics, Step.records, hjudge,
      Check.rejection, Check.skipRemark_eq_ite, hguarded, Report.fail_addNote]
  · simp [skip, reject, fail, announce, addRecords, after, Step.diagnostics, Step.records, hjudge,
      Check.rejection, Check.skipRemark_eq_ite, hguarded, Report.fail_addNote, Report.remark]

/-- A run of checks does what its steps do, and nothing else. Each narrowing put on the stack for
the guarded checks is the one taken off after them, by the induction hypothesis on these checks. -/
theorem runChecks_eq_after (runner : Runner) (parent : List Nat) (index : Nat)
    (checks : List Check) :
    runner.runChecks checks = runner.after (runner.steps parent index checks) := by
  induction checks using Check.forest_induction generalizing runner parent index with
  | nil => simp [runChecks]
  | cons check rest ihGuarded ihRest =>
    have hcheck : runner.runCheck check =
        runner.after (⟨parent ++ [index], runner, check⟩ ::
          runner.stepsInside (parent ++ [index]) check) := by
      rw [runCheck_eq]
      unfold stepsInside
      cases hjudge : runner.judge check with
      | error failure => exact reject_eq_after hjudge (parent ++ [index])
      | ok narrowing =>
        simp only []
        rw [ihGuarded _ (parent ++ [index]) 0, pop_after_push,
          announce_eq_after hjudge (parent ++ [index]), ← after_append, List.singleton_append]
    calc runner.runChecks (check :: rest)
        = (runner.runCheck check).runChecks rest := by rw [runChecks]
      _ = (runner.runCheck check).after ((runner.runCheck check).steps parent (index + 1) rest) :=
          ihRest _ parent (index + 1)
      _ = (runner.after (⟨parent ++ [index], runner, check⟩ ::
            runner.stepsInside (parent ++ [index]) check)).after
              ((runner.runCheck check).steps parent (index + 1) rest) :=
          congrArg (fun before : Runner => before.after _) hcheck
      _ = runner.after (runner.steps parent index (check :: rest)) := by
          rw [← after_append, steps_cons, List.cons_append]

/-! ### Steps and scopes -/

@[simp] theorem context_after (runner : Runner) (steps : List Step) :
    (runner.after steps).context = runner.context := rfl

@[simp] theorem scope_after (runner : Runner) (steps : List Step) :
    (runner.after steps).scope = runner.scope := rfl

@[simp] theorem context_announce (runner : Runner) (check : Check) :
    (runner.announce check).context = runner.context := rfl

@[simp] theorem scope_announce (runner : Runner) (check : Check) :
    (runner.announce check).scope = runner.scope := rfl

@[simp] theorem context_push (runner : Runner) (narrowing : Option (String × Ty)) :
    (runner.push narrowing).context = runner.context := rfl

/-- A narrowing on the stack narrows the scope. -/
@[simp] theorem scope_push (runner : Runner) (narrowing : Option (String × Ty)) :
    (runner.push narrowing).scope = runner.scope.narrow narrowing := by
  cases narrowing with
  | none => rfl
  | some entry =>
    obtain ⟨name, type⟩ := entry
    funext other
    by_cases hother : other = name
    · simp [scope, push, Scope.narrow, hother]
    · simp [scope, push, Scope.narrow, List.lookup_cons, beq_eq_false_iff_ne.mpr hother, hother]

theorem subjectType_eq (runner : Runner) (subject : Subject) :
    runner.subjectType subject = runner.context.subjectType runner.scope subject := rfl

/-- A runner judges a check by its scope, and by nothing else that is on its stack. -/
theorem judge_eq (runner : Runner) (check : Check) :
    runner.judge check = runner.context.judge runner.scope check := by
  cases check with
  | assign name value =>
    simp only [judge, judgeAssignment, Context.judge, bind_assoc]
    rfl
  | test subject target guarded =>
    simp only [judge, judgeTest, Context.judge, bind_assoc, subjectType_eq]
    cases runner.context.subjectType runner.scope subject with
    | error failure => rfl
    | ok type =>
      cases target.resolve with
      | error failure => rfl
      | ok target =>
        cases hverdict : runner.checker.checkTest type target with
        | error error =>
          simp [context, hverdict, bind, Except.bind]
        | ok narrowed =>
          obtain ⟨_, rfl⟩ := Checker.checkTest_eq_ok_iff.mp hverdict
          simp [context, hverdict, bind, Except.bind]
  | access subject field =>
    simp only [judge, judgeAccess, Context.judge, bind_assoc, subjectType_eq]
    rfl

/-- Along a run, the steps are the visits of the lexical scopes, and they all go by the same rules
and symbols. -/
theorem steps_visits (runner : Runner) (parent : List Nat) (index : Nat) (checks : List Check) :
    (runner.steps parent index checks).map Step.visit =
        runner.context.visits runner.scope parent index checks ∧
      ∀ step ∈ runner.steps parent index checks, step.runner.context = runner.context := by
  induction checks using Check.forest_induction generalizing runner parent index with
  | nil => simp
  | cons check rest ihGuarded ihRest =>
    have hinside : (runner.stepsInside (parent ++ [index]) check).map Step.visit =
          runner.context.visitsInside runner.scope (parent ++ [index]) check ∧
        ∀ step ∈ runner.stepsInside (parent ++ [index]) check,
          step.runner.context = runner.context := by
      unfold stepsInside Context.visitsInside
      rw [← judge_eq]
      cases runner.judge check with
      | error failure => simp
      | ok narrowing =>
        simpa using ihGuarded ((runner.announce check).push narrowing) (parent ++ [index]) 0
    have hafter : runner.runCheck check =
        runner.after (runner.steps parent index [check]) := by
      rw [← runChecks_eq_after]
      simp [runChecks]
    have hrest := ihRest (runner.runCheck check) parent (index + 1)
    have hcontext : (runner.runCheck check).context = runner.context := by
      rw [hafter, context_after]
    have hscope : (runner.runCheck check).scope = runner.scope := by
      rw [hafter, scope_after]
    rw [hcontext, hscope] at hrest
    rw [steps_cons, Context.visits_cons]
    constructor
    · simp only [List.map_cons, List.map_append, hinside.1, hrest.1]
      rfl
    · intro step hstep
      rw [List.mem_cons, List.mem_append] at hstep
      rcases hstep with rfl | hstep | hstep
      · rfl
      · exact hinside.2 step hstep
      · exact hrest.2 step hstep

/-- A step is accepted when its check is accepted in its scope. -/
theorem accepted_eq {runner : Runner} {parent : List Nat} {index : Nat} {checks : List Check}
    {step : Step} (hstep : step ∈ runner.steps parent index checks) :
    step.accepted = runner.context.accepts step.visit := by
  rw [Step.accepted, judge_eq, (steps_visits runner parent index checks).2 step hstep]
  rfl

/-- A step reports what its check is told in its scope. -/
theorem flatMap_diagnostics_steps (runner : Runner) (parent : List Nat) (index : Nat)
    (checks : List Check) :
    (runner.steps parent index checks).flatMap Step.diagnostics =
      runner.context.diagnose runner.scope checks := by
  obtain ⟨hvisits, hcontext⟩ := steps_visits runner parent index checks
  rw [← Context.flatMap_diagnostics_visits _ _ parent index, ← hvisits, List.flatMap_map]
  apply List.flatMap_congr
  intro step hstep
  rw [Step.diagnostics, Context.diagnostics, judge_eq, hcontext step hstep]
  rfl

/-- A run of checks adds to the report what the lexical scopes say, starting from the scope that the
stack of narrowings amounts to. -/
theorem report_runChecks (runner : Runner) (checks : List Check) :
    (runner.runChecks checks).report =
      (runner.context.diagnose runner.scope checks).foldl Report.add runner.report := by
  rw [runChecks_eq_after runner [] 0, after, flatMap_diagnostics_steps]

/-- What a run of checks adds to the diagnostics, it adds at their end. -/
theorem diagnostics_runChecks (runner : Runner) (checks : List Check) :
    (runner.runChecks checks).report.diagnostics =
      runner.report.diagnostics ++ runner.context.diagnose runner.scope checks := by
  rw [report_runChecks, Report.foldl_add]

/-- Making checks leaves the rules, the symbols and the narrowings in force as they were. -/
theorem runChecks_unchanged (runner : Runner) (checks : List Check) :
    (runner.runChecks checks).checker = runner.checker ∧
      (runner.runChecks checks).symbols = runner.symbols ∧
      (runner.runChecks checks).narrowings = runner.narrowings := by
  rw [runChecks_eq_after runner [] 0]
  exact ⟨rfl, rfl, rfl⟩

/-- A run of checks reports what the lexical scopes say, after the earlier diagnostics, which it
keeps, and leaves rules, symbols and stack as they were. -/
theorem runChecks_lexical (runner : Runner) (checks : List Check) :
    (runner.runChecks checks).report.diagnostics =
        runner.report.diagnostics ++ runner.context.diagnose runner.scope checks ∧
      (runner.runChecks checks).report.errorCount =
        runner.report.errorCount +
          (runner.context.diagnose runner.scope checks).countP (·.severity = .error) ∧
      (runner.runChecks checks).symbols = runner.symbols ∧
      (runner.runChecks checks).narrowings = runner.narrowings ∧
      (runner.runChecks checks).checker = runner.checker := by
  rw [report_runChecks, Report.foldl_add]
  refine ⟨rfl, rfl, ?_, ?_, ?_⟩ <;> rw [runChecks_eq_after runner [] 0] <;> rfl

end Runner

end Narrowing
