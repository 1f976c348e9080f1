import Narrowing.Proofs.Rules.Settings
import Narrowing.Proofs.Run.Leniency

/-!
# One script under both settings

Under both settings a script makes the same declarations, but not always the same checks. Still, a
check that is accepted in structural mode is accepted by name and narrows its symbol to the same
type, so by-name mode goes wherever structural mode goes, and in the same scopes. It may go
further: a test that only by-name mode accepts opens the way to checks of which structural mode
knows nothing, and these may fail.
-/

namespace Narrowing

/-- The same symbols and the same schema under a setting. -/
def Context.under (context : Context) (equality : UnionEquality) : Context :=
  { context with checker := context.checker.under equality }

/-- The same runner under a setting. -/
def Runner.under (runner : Runner) (equality : UnionEquality) : Runner :=
  { runner with checker := runner.checker.under equality }

/-- The type that a check goes by: for an assignment the declared type of the symbol, for a test or
an access the current type of the subject. -/
def Runner.checkedType (runner : Runner) : Check → Except Failure Ty
  | .assign name _ => do return (← runner.symbols.resolve name).type
  | .test subject _ _ => runner.subjectType subject
  | .access subject _ => runner.subjectType subject

/-- The type that the check of a step goes by. -/
def Step.checkedType (step : Step) : Except Failure Ty := step.runner.checkedType step.check

/-- Whatever check is accepted along the first steps is made along the second ones too, at the same
position, and is accepted there with the same type to go by. -/
def Step.AcceptedAlong (steps steps' : List Step) : Prop :=
  ∀ step ∈ steps, step.accepted = true →
    ∃ step' ∈ steps', step'.position = step.position ∧ step'.check = step.check ∧
      step'.accepted = true ∧
        ∃ type, step.checkedType = .ok type ∧ step'.checkedType = .ok type

/-- The type that a check goes by does not depend on the setting, as long as symbols and scope are
the same. -/
theorem Step.checkedType_congr {step step' : Step} (hvisit : step'.visit = step.visit)
    (hsymbols : step'.runner.symbols = step.runner.symbols) :
    step'.checkedType = step.checkedType := by
  have hcheck : step'.check = step.check := congrArg Visit.check hvisit
  have hscope : step'.runner.scope = step.runner.scope := congrArg Visit.scope hvisit
  have hsubject : ∀ subject,
      step'.runner.subjectType subject = step.runner.subjectType subject := by
    intro subject
    rw [Runner.subjectType_eq, Runner.subjectType_eq]
    unfold Context.subjectType Context.currentType Runner.context
    rw [hscope, hsymbols]
  unfold Step.checkedType Runner.checkedType
  rw [hcheck, hsymbols]
  cases step.check with
  | assign name value => rfl
  | test subject target guarded => exact hsubject subject
  | access subject field => exact hsubject subject

/-- An accepted check has a type to go by. -/
theorem Step.exists_checkedType_of_accepted {step : Step} (h : step.accepted = true) :
    ∃ type, step.checkedType = .ok type := by
  obtain ⟨narrowing, hjudge⟩ := accepted_eq_true_iff.mp h
  rw [Runner.judge_eq] at hjudge
  unfold checkedType
  cases hcheck : step.check with
  | assign name value =>
    rw [hcheck] at hjudge
    obtain ⟨_, _, symbol, _, hsymbol, _⟩ := Context.judge_assign_eq_ok_iff.mp hjudge
    exact ⟨symbol.type, bind_eq_ok_iff.mpr ⟨symbol, hsymbol, rfl⟩⟩
  | test subject target guarded =>
    rw [hcheck] at hjudge
    obtain ⟨type, _, hsubject, _⟩ := Context.judge_test_eq_ok_iff.mp hjudge
    exact ⟨type, hsubject⟩
  | access subject field =>
    rw [hcheck] at hjudge
    obtain ⟨_, typeName, hsubject, _⟩ := Context.judge_access_eq_ok_iff.mp hjudge
    exact ⟨.nominal typeName, hsubject⟩

namespace Context

variable {context : Context}

/-- A check that is accepted in structural mode is accepted by name in the same scope, and narrows
it in the same way. -/
theorem yieldsTo_byName (context : Context) :
    (context.under .structural).YieldsTo (context.under .byName) := by
  intro scope check narrowing h
  cases check with
  | assign name value =>
    rw [judge_assign_eq_ok_iff] at h ⊢
    obtain ⟨hnarrowing, type, symbol, htype, hsymbol, hadmits⟩ := h
    exact ⟨hnarrowing, type, symbol, htype, hsymbol, Checker.admits_byName_of_structural hadmits⟩
  | test subject target guarded =>
    rw [judge_test_eq_ok_iff] at h ⊢
    obtain ⟨type, narrowed, htype, htarget, hadmits, hnarrowing⟩ := h
    exact ⟨type, narrowed, htype, htarget, Checker.admits_byName_of_structural hadmits, hnarrowing⟩
  | access subject field =>
    rw [judge_access_eq_ok_iff] at h ⊢
    exact h

/-- Checks about which no error is reported are all accepted, so nothing else is reported either. -/
theorem diagnose_eq_nil_of_countP {scope : Scope} {checks : List Check}
    (h : (context.diagnose scope checks).countP (·.severity = .error) = 0) :
    context.diagnose scope checks = [] := by
  induction checks using Check.forest_induction generalizing scope with
  | nil => simp
  | cons check rest ihGuarded ihRest =>
    rw [diagnose_cons] at h ⊢
    rw [List.countP_append, Nat.add_eq_zero_iff] at h
    rw [ihRest h.2, List.append_nil]
    cases hjudge : context.judge scope check with
    | error failure =>
      simp [hjudge, Check.countP_rejection] at h
    | ok narrowing =>
      simp only [hjudge] at h
      exact ihGuarded h.1

/-- Checks of which structural mode has nothing to report are no reason for a report by name. -/
theorem diagnose_byName_eq_nil {scope : Scope} {checks : List Check}
    (h : (context.under .structural).diagnose scope checks = []) :
    (context.under .byName).diagnose scope checks = [] :=
  context.yieldsTo_byName.diagnose_eq_nil h

end Context

namespace Runner

/-- What is accepted along the steps of structural mode is accepted along those of by-name mode, for
runners of the same symbols and narrowings. -/
theorem steps_acceptedAlong (runner runner' : Runner) {context : Context}
    (hstructural : runner.context = context.under .structural)
    (hbyName : runner'.context = context.under .byName) (hscope : runner'.scope = runner.scope)
    (parent : List Nat) (index : Nat) (checks : List Check) :
    Step.AcceptedAlong (runner.steps parent index checks)
      (runner'.steps parent index checks) := by
  have hyields : runner.context.YieldsTo runner'.context := by
    rw [hstructural, hbyName]
    exact context.yieldsTo_byName
  intro step hstep haccepted
  obtain ⟨step', hstep', heq, hjudge⟩ := exists_step_of_yieldsTo runner' hyields hscope hstep
  obtain ⟨narrowing, hnarrowing⟩ := Step.accepted_eq_true_iff.mp haccepted
  have haccepted' : step'.accepted = true :=
    Step.accepted_eq_true_iff.mpr ⟨narrowing, hjudge narrowing hnarrowing⟩
  have hsymbols : step'.runner.symbols = step.runner.symbols := by
    have hfirst := congrArg Context.symbols ((steps_visits runner parent index checks).2 step hstep)
    have hsecond :=
      congrArg Context.symbols ((steps_visits runner' parent index checks).2 step' hstep')
    rw [hstructural] at hfirst
    rw [hbyName] at hsecond
    exact hsecond.trans hfirst.symm
  obtain ⟨type, htype⟩ := Step.exists_checkedType_of_accepted haccepted
  exact ⟨step', hstep', congrArg Visit.position heq, congrArg Visit.check heq, haccepted', type,
    htype, (Step.checkedType_congr heq hsymbols).trans htype⟩

/-- Checks that add no error to the report in structural mode add nothing to it by name. -/
theorem report_byName_of_structural {runner : Runner} {checks : List Check}
    (h : ((runner.under .structural).runChecks checks).report.errorCount =
      runner.report.errorCount) :
    ((runner.under .byName).runChecks checks).report = runner.report := by
  rw [report_runChecks, Report.foldl_add] at h
  have hcount : ((runner.under .structural).context.diagnose (runner.under .structural).scope
      checks).countP (·.severity = .error) = 0 := by
    have hreport : (runner.under .structural).report = runner.report := rfl
    simp only [hreport] at h
    omega
  have hnil : (runner.context.under .structural).diagnose runner.scope checks = [] :=
    Context.diagnose_eq_nil_of_countP hcount
  have hdiagnose : (runner.under .byName).context.diagnose (runner.under .byName).scope checks =
      [] := Context.diagnose_byName_eq_nil hnil
  rw [report_runChecks, hdiagnose]
  rfl

end Runner

namespace Script

/-- The setting of a script has no influence on the symbols that it declares, nor on the report of
its declarations. -/
theorem ready_congr (script : Script) (override override' : Option Config) :
    (script.ready override).symbols = (script.ready override').symbols ∧
      (script.ready override).report = (script.ready override').report := by
  have hsymbols : (script.start override).symbols = (script.start override').symbols := rfl
  exact Runner.foldl_declare_congr hsymbols rfl script.declarations

/-- What the checks of a script have in common under a setting. -/
theorem context_ready (script : Script) (equality : UnionEquality) :
    (script.ready (some { unionEquality := equality })).context =
      (script.ready none).context.under equality := by
  unfold Runner.context Context.under Checker.under
  rw [checker_ready, checker_ready, (ready_congr script _ none).1]
  rfl

/-- The checks of a script begin in the same scope under all settings. -/
theorem scope_ready_congr (script : Script) (override override' : Option Config) :
    (script.ready override).scope = (script.ready override').scope :=
  scope_ready_eq script script override override'

/-- A script without errors has an empty report: its declarations report nothing but errors, and its
checks begin each report on a rejected check with one. -/
theorem ready_report_of_not_hasErrors {script : Script} {override : Option Config}
    (h : (script.run override).report.hasErrors = false) :
    (script.ready override).report = .empty ∧
      (script.ready override).context.diagnose (script.ready override).scope script.checks =
        [] := by
  obtain ⟨errors, herrors, hreport⟩ :=
    Runner.report_foldl_declare (script.start override) script.declarations
  have hready : (script.ready override).report = errors.foldl Report.add .empty := hreport
  rw [run_eq, Runner.report_runChecks, hready, Report.foldl_add, Report.foldl_add] at h
  simp only [Report.hasErrors, gt_iff_lt, decide_eq_false_iff_not, Nat.not_lt, Nat.le_zero_eq,
    Nat.add_eq_zero_iff] at h
  have hnone : errors = [] := by
    have hall : errors.countP (·.severity = .error) = errors.length :=
      List.countP_eq_length.mpr fun error herror => by simpa using herrors error herror
    exact List.length_eq_zero_iff.mp (hall.symm.trans h.1.2)
  refine ⟨?_, Context.diagnose_eq_nil_of_countP h.2⟩
  rw [hready, hnone]
  rfl

/-- Two nested tests that both settings accept, one behind the other, and a test that only by-name
mode accepts, with two accesses behind it that fail. -/
def misled : Script where
  declarations := [⟨"x", .union [.union [.named "a"], .named "b"]⟩]
  checks :=
    [.test { symbol? := some "x" } (.union [.named "a", .named "a"])
      [.test { symbol? := some "x" } (.named "a") []],
    .test { symbol? := some "x" } (.union [.named "c"])
      [.access { symbol? := some "x" } "f", .access { symbol? := some "x" } "g"]]

/-- A test that only by-name mode accepts guards nothing. -/
def forgiven : Script where
  declarations := [⟨"x", .union [.union [.named "a"], .named "b"]⟩]
  checks := [.test { symbol? := some "x" } (.union [.named "c"]) []]

/-- What is accepted in structural mode is accepted by name, with the same type to go by: among the
checks of any runner and among those of any script. So where structural mode finds no error, by-name
mode has nothing to report. The number of errors may still change either way. -/
theorem acceptedAlong_byName :
    (∀ (runner : Runner) (checks : List Check),
      Step.AcceptedAlong ((runner.under .structural).steps [] 0 checks)
          ((runner.under .byName).steps [] 0 checks) ∧
        (((runner.under .structural).runChecks checks).report.errorCount =
            runner.report.errorCount →
          ((runner.under .byName).runChecks checks).report = runner.report)) ∧
    (∀ script : Script,
      Step.AcceptedAlong (script.steps (some { unionEquality := .structural }))
          (script.steps (some { unionEquality := .byName })) ∧
        ((script.run (some { unionEquality := .structural })).report.hasErrors = false →
          (script.run (some { unionEquality := .byName })).report = .empty)) ∧
    (¬ ∀ script : Script,
      (script.run (some { unionEquality := .byName })).report.errorCount ≤
        (script.run (some { unionEquality := .structural })).report.errorCount) ∧
    ¬ ∀ script : Script,
      (script.run (some { unionEquality := .structural })).report.errorCount ≤
        (script.run (some { unionEquality := .byName })).report.errorCount := by
  refine ⟨fun runner checks => ⟨?_, Runner.report_byName_of_structural⟩,
    fun script => ⟨?_, fun herrors => ?_⟩, fun h => ?_, fun h => ?_⟩
  · have hstructural : (runner.under .structural).context = runner.context.under .structural := rfl
    exact Runner.steps_acceptedAlong _ (runner.under .byName) hstructural rfl rfl [] 0 checks
  · exact Runner.steps_acceptedAlong _ _ (context_ready script .structural)
      (context_ready script .byName) (scope_ready_congr script _ _) [] 0 script.checks
  · obtain ⟨hreport, hdiagnose⟩ := ready_report_of_not_hasErrors herrors
    rw [context_ready] at hdiagnose
    have hbyName := Context.diagnose_byName_eq_nil hdiagnose
    rw [run_eq, Runner.report_runChecks, context_ready, scope_ready_congr script _ _, hbyName,
      (ready_congr script _ _).2, List.foldl_nil]
    exact hreport
  · exact absurd (h misled) (by decide)
  · exact absurd (h forgiven) (by decide)

/-- The nested tests are accepted in structural mode, so they are accepted by name, the inner one
with the narrowed type to go by, and no error can come of them there. -/
theorem misled_acceptedAlong :
    (∃ step ∈ misled.steps (some { unionEquality := .structural }),
      step.position = [0, 0] ∧ step.accepted = true ∧
        ∃ step' ∈ misled.steps (some { unionEquality := .byName }),
          step'.position = [0, 0] ∧ step'.accepted = true ∧
            step'.checkedType = .ok (.union [.nominal "a", .nominal "a"])) ∧
      (let script := { misled with checks := misled.checks.take 1 }
      (script.run (some { unionEquality := .structural })).report.hasErrors = false ∧
        (script.run (some { unionEquality := .byName })).report = .empty) ∧
      let runner := misled.ready none
      ((runner.under .structural).runChecks (misled.checks.take 1)).report.errorCount =
          runner.report.errorCount ∧
        ((runner.under .byName).runChecks (misled.checks.take 1)).report = runner.report := by
  have hlength : 1 < (misled.steps (some { unionEquality := .structural })).length := by decide
  obtain ⟨step', hstep', hposition, _, haccepted, type, htype, htype'⟩ :=
    (acceptedAlong_byName.2.1 misled).1 _ (List.getElem_mem hlength) rfl
  cases htype
  exact ⟨⟨_, List.getElem_mem hlength, rfl, rfl, step', hstep', hposition, haccepted, htype'⟩,
    ⟨by decide, (acceptedAlong_byName.2.1 _).2 (by decide)⟩,
    by decide, (acceptedAlong_byName.1 _ _).2 (by decide)⟩

end Script

end Narrowing
