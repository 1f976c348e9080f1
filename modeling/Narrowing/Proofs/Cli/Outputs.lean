import Narrowing.Proofs.Reading.Reports
import Narrowing.Proofs.Run.Accounting
import Narrowing.Proofs.Run.Declarations

/-!
# The two outputs of a check

A check prints its report either in words or as a value. Both outputs are made of one report, so
they tell the same diagnostics and the same summary, and the program exits with the same code. The
code depends on a count that the report keeps beside its diagnostics; it is the number of the
declarations and checks that were rejected.
-/

namespace Narrowing

/-! ### The number of errors -/

/-- Declarations count an error for each of them that is rejected. -/
theorem Runner.errorCount_foldl_declare (runner : Runner) (declarations : List Declaration) :
    (declarations.foldl declare runner).report.errorCount =
      runner.report.errorCount + (runner.declarationVerdicts declarations).count false := by
  induction declarations generalizing runner with
  | nil => rfl
  | cons declaration rest ih =>
    rw [List.foldl_cons, ih, declarationVerdicts]
    cases henlist : runner.enlist declaration with
    | error failure =>
      have hcount : (runner.declare declaration).report.errorCount =
          runner.report.errorCount + 1 := by
        rw [declare_of_error henlist]
        rfl
      rw [hcount]
      simp only [Except.isOk, Except.toBool, List.count_cons_self]
      omega
    | ok result =>
      have hcount : (runner.declare declaration).report = runner.report := by
        rw [declare_of_ok henlist]
      rw [hcount]
      simp [Except.isOk, Except.toBool]

namespace Script

/-- All declarations of a script succeed, and so do all checks that it makes. -/
structure Succeeds (script : Script) (override : Option Config) : Prop where
  /-- All declarations are accepted. -/
  declarations : ∀ verdict ∈ script.declarationVerdicts override, verdict = true
  /-- All checks that are made are accepted. -/
  checks : ∀ step ∈ script.steps override, step.accepted = true

/-- A run counts as many errors as declarations and checks are rejected. -/
theorem errorCount_run (script : Script) (override : Option Config) :
    (script.run override).report.errorCount =
      (script.declarationVerdicts override).count false +
        (script.steps override).countP (!·.accepted) := by
  have hdeclared : (script.ready override).report.errorCount =
      (script.declarationVerdicts override).count false := by
    have hcount := Runner.errorCount_foldl_declare (script.start override) script.declarations
    have hstart : (script.start override).report.errorCount = 0 := rfl
    rw [hstart, Nat.zero_add] at hcount
    exact hcount
  rw [run_eq, Runner.report_runChecks, Report.foldl_add, hdeclared,
    ← Runner.flatMap_diagnostics_steps _ [] 0, Step.countP_flatMap_diagnostics]
  rfl

/-- A report has no errors exactly when everything succeeds. -/
theorem hasErrors_run_eq_false_iff {script : Script} {override : Option Config} :
    (script.run override).report.hasErrors = false ↔ script.Succeeds override := by
  have hsplit : (script.run override).report.hasErrors = false ↔
      (script.declarationVerdicts override).count false = 0 ∧
        (script.steps override).countP (!·.accepted) = 0 := by
    rw [Report.hasErrors, errorCount_run, decide_eq_false_iff_not]
    omega
  rw [hsplit, List.count_eq_zero, List.countP_eq_zero]
  constructor
  · rintro ⟨hdeclarations, hchecks⟩
    refine ⟨fun verdict hverdict => ?_, fun step hstep => by simpa using hchecks step hstep⟩
    cases verdict with
    | true => rfl
    | false => exact absurd hverdict hdeclarations
  · intro h
    exact ⟨fun hfalse => Bool.false_ne_true (h.declarations false hfalse),
      fun step hstep => by simpa using h.checks step hstep⟩

end Script

/-! ### Reports as values -/

namespace Report

/-- The text of the value that a report is written as holds this value. -/
theorem ofText_toValue (report : Report) (input : String) :
    Json.Value.ofText (report.toValue input).text = .ok (report.toValue input) := by
  obtain ⟨hfree, hnesting⟩ := report.toValue_plain input
  exact (Json.Value.writtenBy_text hfree).ofText_eq (Nat.le_trans hnesting (by decide))

/-- The values that diagnostics are written as are read as these diagnostics. -/
theorem mapM_ofValue_toValue (diagnostics : List Diagnostic) :
    (diagnostics.map Diagnostic.toValue).mapM Diagnostic.reader.ofValue = .ok diagnostics := by
  rw [mapM_eq_ok_iff, List.forall₂_map_left_iff, List.forall₂_same]
  intro diagnostic _
  obtain ⟨hfree, hnesting⟩ := diagnostic.toValue_plain
  exact Reader.ofValue_of_reads diagnostic.reads_toValue hfree (Nat.le_trans hnesting (by decide))

end Report

/-! ### Responses -/

namespace Cli

/-- A file that holds a script is responded to with the report of its run. -/
theorem Response.check_of_ok {content : Except Failure ByteArray} {script : Script}
    (hload : content >>= Script.ofBytes = .ok script) (file : String) (json : Bool)
    (override? : Option UnionEquality) :
    check file json override? content =
      ofReport file json (script.run (override?.map Config.mk)).report := by
  simp only [check, hload]

/-- A file that holds none is responded to with the reason. -/
theorem Response.check_of_error {content : Except Failure ByteArray} {failure : Failure}
    (hload : content >>= Script.ofBytes = .error failure) (file : String) (json : Bool)
    (override? : Option UnionEquality) :
    check file json override? content =
      { errors := ["Error running script: " ++ failure.message], exitCode := 1 } := by
  simp only [check, hload]

/-- The exit code is 0 or 1, and 0 exactly when the report has no errors. -/
theorem Response.exitCode_ofReport (file : String) (json : Bool) (report : Report) :
    ((ofReport file json report).exitCode = 0 ∨ (ofReport file json report).exitCode = 1) ∧
      ((ofReport file json report).exitCode = 0 ↔ report.hasErrors = false) := by
  unfold ofReport
  cases report.hasErrors <;> simp

/-- Whatever a file holds, both outputs of its check come with the same exit code, which is 0 if the
file holds a script of which everything succeeds, and 1 otherwise. If it holds a script, the errors
in words are the texts of the diagnostics that are read from the value, in order, and the summary is
the one in the value. If it does not, the outputs are the same: no output and a single error. -/
theorem outputs_agree (file : String) (override? : Option UnionEquality)
    (content : Except Failure ByteArray) :
    let text := (Request.check file false override?).respond content
    let value := (Request.check file true override?).respond content
    value.exitCode = text.exitCode ∧
    (text.exitCode = 0 ∨ text.exitCode = 1) ∧
    (text.exitCode = 0 ↔ ∃ script, content >>= Script.ofBytes = .ok script ∧
      script.Succeeds (override?.map Config.mk)) ∧
    match content >>= Script.ofBytes with
    | .ok script =>
      let report := (script.run (override?.map Config.mk)).report
      ∃ printed members elements,
        value.errors = [] ∧ value.output = [printed] ∧
        Json.Value.ofText printed = .ok (.object members) ∧
        members.lookup "diagnostics" = some (.array elements) ∧
        elements.mapM Diagnostic.reader.ofValue = .ok report.diagnostics ∧
        text.errors = report.diagnostics.map Diagnostic.text ∧
        members.lookup "summary" = some (.string report.summary) ∧
        text.output = [file ++ ": " ++ report.summary]
    | .error failure =>
      value = text ∧ text.output = [] ∧
        text.errors = ["Error running script: " ++ failure.message] := by
  intro text value
  cases hload : content >>= Script.ofBytes with
  | error failure =>
    have htext : text = _ := Response.check_of_error hload file false override?
    have hvalue : value = _ := Response.check_of_error hload file true override?
    rw [htext, hvalue]
    exact ⟨rfl, .inr rfl, by simp, rfl, rfl, rfl⟩
  | ok script =>
    have htext : text = _ := Response.check_of_ok hload file false override?
    have hvalue : value = _ := Response.check_of_ok hload file true override?
    have hcode :=
      Response.exitCode_ofReport file false (script.run (override?.map Config.mk)).report
    rw [htext, hvalue]
    refine ⟨rfl, hcode.1, ?_, _, _, _, rfl, rfl, Report.ofText_toValue _ file, rfl,
      Report.mapM_ofValue_toValue _, rfl, rfl, rfl⟩
    rw [hcode.2, Script.hasErrors_run_eq_false_iff]
    simp only [Except.ok.injEq, exists_eq_left']

/-- A file with an empty script, one with a declaration that fails, and one without a script. -/
example :
    let respond (source : String) : Response :=
      (Request.check "a" false none).respond (.ok source.toUTF8)
    respond "\x7b\x7d" = { output := ["a: No errors"] } ∧
      (respond "\x7b\"symbols\":[\x7b\"name\":\"x\",\"type\":[]\x7d]\x7d").output = ["a: 1 error"] ∧
      (respond "\x7b").output = [] := by
  decide +kernel

end Cli

end Narrowing
