import Narrowing.Script
import Narrowing.Checker.Records
import Narrowing.Report

/-!
# Running checks

A runner goes through declarations and checks, one after the other, and reports every failure
without stopping at any. It keeps a stack of narrowings: while it is inside the checks that an
accepted test on a symbol guards, the symbol has the type that was tested for, as far as tests and
accesses go. Assignments always go by the declared type.
-/

namespace Narrowing

/-- The state of a run. -/
structure Runner where
  /-- The rules. -/
  checker : Checker
  /-- The symbols declared so far. -/
  symbols : SymbolTable := .empty
  /-- The narrowings in force, the innermost first. -/
  narrowings : List (String × Ty) := []
  /-- The diagnostics so far. -/
  report : Report := .empty
  /-- The log so far. -/
  log : List Record := []
  deriving Inhabited

namespace Runner

/-- Adds records to the log. -/
def addRecords (runner : Runner) (records : List Record) : Runner :=
  { runner with log := runner.log ++ records }

/-- Reports a failure together with the activity that failed. -/
def fail (runner : Runner) (failure : Failure) (activity : String) : Runner :=
  { runner with report := (runner.report.fail failure).addNote activity }

/-- Declares the symbol that a declaration describes. The type is resolved first, so a declaration
whose type stands for nothing leaves its name free. -/
def declare (runner : Runner) (declaration : Declaration) : Runner :=
  let result := do runner.symbols.declare ⟨declaration.name, ← declaration.type.resolve⟩
  match result with
  | .ok (id, symbols) =>
    let record : Record := ⟨.debug, s!"declared symbol #{id} '{declaration.name}'"⟩
    { runner with symbols }.addRecords [record]
  | .error failure => runner.fail failure s!"while declaring '{declaration.name}'"

/-- The current type of a symbol: its innermost narrowing, or else its declared type. -/
def currentType (runner : Runner) (name : String) : Except Failure Ty :=
  match runner.narrowings.lookup name with
  | some type => .ok type
  | none => do return (← runner.symbols.resolve name).type

/-- The current type of a subject. -/
def subjectType (runner : Runner) (subject : Subject) : Except Failure Ty :=
  match subject.symbol?, subject.type? with
  | some name, none => runner.currentType name
  | none, some type => type.resolve
  | _, _ => .error (.script "a check needs exactly one of 'symbol' or 'type'")

/-- Judges an assignment. -/
def judgeAssignment (runner : Runner) (name : String) (value : TypeRef) : Except Failure Unit := do
  let value ← value.resolve
  let symbol ← runner.symbols.resolve name
  (runner.checker.checkAssignment symbol value).mapError RuleError.toFailure

/-- Judges a type test, and gives the type of the subject where it succeeds. -/
def judgeTest (runner : Runner) (subject : Subject) (target : TypeRef) : Except Failure Ty := do
  let type ← runner.subjectType subject
  let target ← target.resolve
  (runner.checker.checkTest type target).mapError RuleError.toFailure

/-- Judges a field access. -/
def judgeAccess (runner : Runner) (subject : Subject) (field : String) : Except Failure Unit := do
  let type ← runner.subjectType subject
  (runner.checker.checkAccess type field).mapError RuleError.toFailure

/-- The records of the rule that judges a check; a check that fails before its rule is asked has
none. -/
def ruleRecords (runner : Runner) : Check → List Record
  | .assign name value =>
    match value.resolve, runner.symbols.resolve name with
    | .ok value, .ok symbol => Checker.assignmentRecords symbol value
    | _, _ => []
  | .test subject target _ =>
    match runner.subjectType subject, target.resolve with
    | .ok type, .ok target => runner.checker.testRecords type target
    | _, _ => []
  | .access subject field =>
    match runner.subjectType subject with
    | .ok type => Checker.accessRecords type field
    | .error _ => []

/-- Logs a check that is about to be made. -/
def announce (runner : Runner) (check : Check) : Runner :=
  runner.addRecords (⟨.info, s!"check: {check.text}"⟩ :: runner.ruleRecords check)

/-- The remark that a failed test skips the checks it guards. -/
def skipMessage (guarded : List Check) (check : Check) : String :=
  let plural := if guarded.length = 1 then "" else "s"
  s!"skipped {guarded.length} check{plural} guarded by `{check.text}`"

/-- One check is not counted in the plural. -/
theorem skipMessage_of_length_eq_one {guarded : List Check} (h : guarded.length = 1)
    (check : Check) :
    skipMessage guarded check = s!"skipped 1 check guarded by `{check.text}`" := by
  unfold skipMessage
  rw [h]
  rfl

/-- Any other number of checks is. -/
theorem skipMessage_of_length_ne_one {guarded : List Check} (h : guarded.length ≠ 1)
    (check : Check) :
    skipMessage guarded check =
      s!"skipped {guarded.length} checks guarded by `{check.text}`" := by
  have hplural : " check" ++ "s" ++ " guarded by `" = " checks guarded by `" := by decide
  unfold skipMessage
  rw [if_neg h]
  simp only [toString, ← hplural, String.append_assoc]

/-- Reports a failed check. -/
def reject (runner : Runner) (check : Check) (failure : Failure) : Runner :=
  runner.fail failure s!"while checking `{check.text}`"

/-- Remarks that checks were skipped, if there are any. -/
def skip (runner : Runner) (guarded : List Check) (check : Check) : Runner :=
  if guarded.isEmpty then runner
  else { runner with report := runner.report.remark (skipMessage guarded check) }

/-- Enters the checks that a test guards: a named symbol has the given type from here on. -/
def enter (runner : Runner) (subject : Subject) (type : Ty) : Runner :=
  match subject.symbol? with
  | some name => { runner with narrowings := (name, type) :: runner.narrowings }
  | none => runner

/-- Leaves the checks that a test guards. -/
def leave (runner : Runner) (subject : Subject) : Runner :=
  match subject.symbol? with
  | some _ => { runner with narrowings := runner.narrowings.tail }
  | none => runner

mutual

/-- Makes a check, and the checks it guards if it is accepted. -/
def runCheck (runner : Runner) : Check → Runner
  | .assign name value =>
    let announced := runner.announce (.assign name value)
    match runner.judgeAssignment name value with
    | .ok () => announced
    | .error failure => announced.reject (.assign name value) failure
  | .test subject target guarded =>
    let announced := runner.announce (.test subject target guarded)
    match runner.judgeTest subject target with
    | .ok type => ((announced.enter subject type).runChecks guarded).leave subject
    | .error failure =>
      (announced.reject (.test subject target guarded) failure).skip guarded
        (.test subject target guarded)
  | .access subject field =>
    let announced := runner.announce (.access subject field)
    match runner.judgeAccess subject field with
    | .ok () => announced
    | .error failure => announced.reject (.access subject field) failure

/-- Makes the checks of a list, in order. -/
def runChecks (runner : Runner) : List Check → Runner
  | [] => runner
  | check :: rest => (runner.runCheck check).runChecks rest

end

end Runner

/-- Runs a whole script. A given setting overrides the script's own. -/
def Script.run (script : Script) (override : Option Config) : Runner :=
  let config := override.getD script.config
  let start : Runner :=
    { checker := ⟨script.schema, config⟩
      log := [⟨.info, s!"running {script.checks.length} checks " ++
        "(" ++ config.unionEquality.label ++ ")"⟩] }
  (script.declarations.foldl Runner.declare start).runChecks script.checks

end Narrowing
