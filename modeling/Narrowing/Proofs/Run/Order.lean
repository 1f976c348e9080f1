import Mathlib.Data.List.Perm.Basic
import Narrowing.Proofs.Run.Agreement

/-!
# The order of checks

Checks that stand next to each other have no influence on each other: each is judged in the scope
around all of them, whatever became of those before it. Reordering siblings, at any depth, therefore
reorders the diagnostics of a run and changes nothing else about it. What a rejected test reports
does not depend on the order of the checks that it skips, only on their number.
-/

namespace Narrowing

/-- Forests of checks that differ in the order of siblings only, among the outermost checks and
among those that any test guards. -/
inductive Check.Reordered : List Check → List Check → Prop
  /-- Nothing is left to reorder. -/
  | nil : Reordered [] []
  /-- The first check keeps its place. -/
  | cons (check : Check) {rest rest' : List Check} : Reordered rest rest' →
      Reordered (check :: rest) (check :: rest')
  /-- The first two checks change places. -/
  | swap (first second : Check) (rest : List Check) :
      Reordered (first :: second :: rest) (second :: first :: rest)
  /-- The checks that the first check guards are reordered. -/
  | inside (subject : Subject) (target : TypeRef) (rest : List Check)
      {guarded guarded' : List Check} : Reordered guarded guarded' →
      Reordered (.test subject target guarded :: rest) (.test subject target guarded' :: rest)
  /-- One reordering is made after the other. -/
  | trans {checks checks' checks'' : List Check} : Reordered checks checks' →
      Reordered checks' checks'' → Reordered checks checks''

namespace Check.Reordered

/-- Any permutation of siblings is a reordering. -/
theorem of_perm {checks checks' : List Check} (h : checks.Perm checks') :
    Reordered checks checks' := by
  induction h with
  | nil => exact .nil
  | cons check _ ih => exact .cons check ih
  | swap first second rest => exact .swap second first rest
  | trans _ _ ih ih' => exact .trans ih ih'

/-- A reordering keeps the number of the outermost checks. -/
theorem length_eq {checks checks' : List Check} (h : Reordered checks checks') :
    checks.length = checks'.length := by
  induction h with
  | nil => rfl
  | cons check _ ih => rw [List.length_cons, List.length_cons, ih]
  | swap first second rest => rfl
  | inside subject target rest _ _ => rfl
  | trans _ _ ih ih' => rw [ih, ih']

end Check.Reordered

/-- A rejected test is reported alike, in whatever order the checks are that it guards: the text of
a test does not show them, and a remark on skipped checks counts them. -/
theorem Check.rejection_eq_of_reordered {guarded guarded' : List Check}
    (h : Check.Reordered guarded guarded') (subject : Subject) (target : TypeRef)
    (failure : Failure) :
    (Check.test subject target guarded).rejection failure =
      (Check.test subject target guarded').rejection failure := by
  have htext : (Check.test subject target guarded).text =
      (Check.test subject target guarded').text := rfl
  simp only [rejection, skipRemark, Check.guarded, h.length_eq, htext]

/-- Reordered checks have the same diagnostics in any scope, up to their order. -/
theorem Context.diagnose_perm {checks checks' : List Check} (h : Check.Reordered checks checks')
    (context : Context) (scope : Scope) :
    (context.diagnose scope checks).Perm (context.diagnose scope checks') := by
  induction h generalizing scope with
  | nil => exact .refl _
  | cons check _ ih =>
    rw [diagnose_cons, diagnose_cons]
    exact (ih scope).append_left _
  | swap first second rest =>
    rw [diagnose_cons, diagnose_cons, diagnose_cons, diagnose_cons, ← List.append_assoc,
      ← List.append_assoc]
    exact List.perm_append_comm.append_right _
  | @inside subject target rest guarded guarded' hguarded ih =>
    rw [diagnose_cons, diagnose_cons]
    have hjudge : context.judge scope (.test subject target guarded') =
        context.judge scope (.test subject target guarded) := rfl
    apply List.Perm.append_right
    rw [hjudge]
    cases context.judge scope (.test subject target guarded) with
    | ok narrowing => exact ih (scope.narrow narrowing)
    | error failure =>
      have hreported := Check.rejection_eq_of_reordered hguarded subject target failure
      simp only [hreported]
      exact .refl _
  | trans _ _ ih ih' => exact (ih scope).trans (ih' scope)

namespace Runner

/-- Making either list of checks comes to the same, apart from the order of the diagnostics. -/
structure SameUpToOrder (runner : Runner) (checks checks' : List Check) : Prop where
  /-- The same diagnostics are added after the earlier ones, each as many times. -/
  diagnostics : ∃ added added' : List Diagnostic,
    (runner.runChecks checks).report.diagnostics = runner.report.diagnostics ++ added ∧
      (runner.runChecks checks').report.diagnostics = runner.report.diagnostics ++ added' ∧
      added.Perm added'
  /-- The errors are as many. -/
  errorCount : (runner.runChecks checks).report.errorCount =
    (runner.runChecks checks').report.errorCount
  /-- So the summaries agree. -/
  summary : (runner.runChecks checks).report.summary = (runner.runChecks checks').report.summary
  /-- The symbols are as before, in both runs. -/
  symbols : (runner.runChecks checks).symbols = runner.symbols ∧
    (runner.runChecks checks').symbols = runner.symbols
  /-- The narrowings in force are as before, in both runs. -/
  narrowings : (runner.runChecks checks).narrowings = runner.narrowings ∧
    (runner.runChecks checks').narrowings = runner.narrowings

/-- Reordered checks are made with the same effect. -/
theorem sameUpToOrder_of_reordered {checks checks' : List Check}
    (h : Check.Reordered checks checks') (runner : Runner) :
    runner.SameUpToOrder checks checks' := by
  have hperm := Context.diagnose_perm h runner.context runner.scope
  have hcount : (runner.runChecks checks).report.errorCount =
      (runner.runChecks checks').report.errorCount := by
    rw [report_runChecks, report_runChecks, Report.foldl_add, Report.foldl_add]
    simp only [hperm.countP_eq]
  obtain ⟨_, hsymbols, hnarrowings⟩ := runChecks_unchanged runner checks
  obtain ⟨_, hsymbols', hnarrowings'⟩ := runChecks_unchanged runner checks'
  exact
    { diagnostics := ⟨_, _, diagnostics_runChecks runner checks,
        diagnostics_runChecks runner checks', hperm⟩
      errorCount := hcount
      summary := by
        unfold Report.summary
        rw [hcount]
      symbols := ⟨hsymbols, hsymbols'⟩
      narrowings := ⟨hnarrowings, hnarrowings'⟩ }

/-- Checks that were made before, whatever became of them, have no influence on what later checks
report. -/
theorem addsSame_after (runner : Runner) (earlier checks : List Check) :
    AddsSame checks runner (runner.runChecks earlier) := by
  obtain ⟨hchecker, hsymbols, hnarrowings⟩ := runChecks_unchanged runner earlier
  have hagree : AgreesOn (Check.names checks) runner (runner.runChecks earlier) :=
    { equality := by rw [hchecker]
      schema := fun _ _ => by rw [hchecker]
      declared := fun _ _ => by rw [hsymbols]
      narrowed := fun _ _ => by rw [hnarrowings] }
  exact hagree.addsSame

/-- Checks are independent of each other: reordering siblings, at any depth, has no effect but on
the order of the diagnostics, and checks report the same after any others as if these had not been
made. -/
theorem runs_independent_of_order :
    (∀ (runner : Runner) (checks checks' : List Check), Check.Reordered checks checks' →
      runner.SameUpToOrder checks checks') ∧
    ∀ (runner : Runner) (earlier checks : List Check),
      AddsSame checks runner (runner.runChecks earlier) :=
  ⟨fun runner _ _ h => sameUpToOrder_of_reordered h runner, addsSame_after⟩

/-- A rejected test, an accepted one and an access change places, and so do the checks that either
test guards: what is reported inside the second test moves with it, and the remark on what the first
one skips stays the same. -/
theorem mixed_forest_independent_of_order :
    let runner : Runner :=
      { checker := {}
        symbols := { toList := [⟨"x", .union [.nominal "int", .nominal "Point"]⟩] } }
    let x : Subject := { symbol? := some "x" }
    let checks : List Check :=
      [.test x (.named "bool") [.access x "x", .assign "x" (.named "int")],
      .test x (.named "Point") [.access x "x", .access x "z", .assign "x" (.named "bool")],
      .access x "x"]
    let checks' : List Check :=
      [.test x (.named "Point") [.assign "x" (.named "bool"), .access x "z", .access x "x"],
      .access x "x",
      .test x (.named "bool") [.assign "x" (.named "int"), .access x "x"]]
    Check.Reordered checks checks' ∧ runner.SameUpToOrder checks checks' ∧
      AddsSame checks' runner (runner.runChecks checks) := by
  intro runner x checks checks'
  have hskipped : Check.Reordered [.access x "x", .assign "x" (.named "int")]
      [.assign "x" (.named "int"), .access x "x"] := .of_perm (.swap _ _ _)
  have hmade : Check.Reordered
      [.access x "x", .access x "z", .assign "x" (.named "bool")]
      [.assign "x" (.named "bool"), .access x "z", .access x "x"] :=
    .of_perm (List.reverse_perm _).symm
  have hreordered : Check.Reordered checks checks' :=
    .trans (.inside x (.named "bool") _ hskipped)
      (.trans (.swap _ _ _) (.trans (.inside x (.named "Point") _ hmade) (.cons _ (.swap _ _ _))))
  exact ⟨hreordered, runs_independent_of_order.1 runner checks checks' hreordered,
    runs_independent_of_order.2 runner checks checks'⟩

end Runner

end Narrowing
