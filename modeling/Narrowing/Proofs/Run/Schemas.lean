import Narrowing.Proofs.Run.Causes
import Narrowing.Proofs.Run.Declarations

/-!
# One script under two schemas

A schema is asked in one place only: whether a nominal type has a field that is read from it. So two
schemas lead to the same visits in the same scopes. Where the second schema has all fields of the
first, the accesses that only the first one rejects are those whose field the second supplies, and
their errors are all that the second report lacks.
-/

namespace Narrowing

/-- The same symbols and the same setting under a schema. -/
def Context.withSchema (context : Context) (schema : Schema) : Context :=
  { context with checker := { context.checker with schema } }

/-- The type and the field for which an access is rejected, if it is rejected because the type does
not have the field. -/
def Context.missingField? (context : Context) (scope : Scope) : Check → Option (String × String)
  | .access subject field =>
    match context.subjectType scope subject with
    | .ok type =>
      match context.checker.checkAccess type field with
      | .error (.missingField typeName field) => some (typeName, field)
      | _ => none
    | .error _ => none
  | .assign .. | .test .. => none

/-- Whether the schema has the field that is missing, if one is. -/
def Schema.supplies (schema : Schema) (missing? : Option (String × String)) : Bool :=
  missing?.any fun (typeName, field) => schema.hasField typeName field

/-- A diagnostic of a run. If it is the error that a type does not have a field, the two are noted
with it. -/
structure Finding where
  /-- The diagnostic. -/
  diagnostic : Diagnostic
  /-- The type that does not have a field, and the field. -/
  missing? : Option (String × String) := none

/-- The diagnostics of findings that were made of diagnostics are these. -/
@[simp] theorem Finding.map_diagnostic_map_mk (diagnostics : List Diagnostic)
    (missing? : Option (String × String)) :
    (diagnostics.map (Finding.mk · missing?)).map Finding.diagnostic = diagnostics := by
  rw [List.map_map]
  exact List.map_id _

/-- The type and the field for which the check of a step is rejected, if it is rejected because the
type does not have the field. -/
def Step.missingField? (step : Step) : Option (String × String) :=
  step.runner.context.missingField? step.runner.scope step.check

/-- The diagnostics of a step, as findings. -/
def Step.findings (step : Step) : List Finding :=
  step.diagnostics.map (Finding.mk · step.missingField?)

namespace Script

/-- The runner of a script after its last declaration, under a setting and a schema. -/
def readyUnder (script : Script) (config : Config) (schema : Schema) : Runner :=
  script.declarations.foldl Runner.declare { checker := ⟨schema, config⟩ }

/-- The run of a script under a setting and a schema. -/
def runUnder (script : Script) (config : Config) (schema : Schema) : Runner :=
  (script.readyUnder config schema).runChecks script.checks

/-- The steps of a script under a setting and a schema. -/
def stepsUnder (script : Script) (config : Config) (schema : Schema) : List Step :=
  (script.readyUnder config schema).steps [] 0 script.checks

/-- The findings of a script under a setting and a schema. Those of the declarations come first, and
none of them is about a field. -/
def findings (script : Script) (config : Config) (schema : Schema) : List Finding :=
  ((script.readyUnder config schema).report.diagnostics.map (Finding.mk · none)) ++
    (script.stepsUnder config schema).flatMap Step.findings

end Script

namespace Context

variable {context : Context} {schema : Schema} {scope : Scope}

/-- Only accesses are judged by the schema. -/
theorem judge_withSchema {check : Check} (hcheck : ∀ subject field, check ≠ .access subject field) :
    (context.withSchema schema).judge scope check = context.judge scope check := by
  cases check with
  | assign name value => rfl
  | test subject target guarded => rfl
  | access subject field => exact absurd rfl (hcheck subject field)

/-- The visits of a forest do not depend on the schema: what narrows a scope, and what guards
checks, is no access. -/
theorem visits_withSchema (context : Context) (schema : Schema) (scope : Scope) (parent : List Nat)
    (index : Nat) (checks : List Check) :
    (context.withSchema schema).visits scope parent index checks =
      context.visits scope parent index checks := by
  induction checks using Check.forest_induction generalizing scope parent index with
  | nil => simp
  | cons check rest ihGuarded ihRest =>
    have hinside : (context.withSchema schema).visitsInside scope (parent ++ [index]) check =
        context.visitsInside scope (parent ++ [index]) check := by
      -- An access may be judged otherwise under the other schema, but it guards nothing.
      by_cases hguarded : check.guarded = []
      · unfold visitsInside
        rw [hguarded]
        cases (context.withSchema schema).judge scope check <;>
          cases context.judge scope check <;> simp
      · have hcheck : ∀ subject field, check ≠ .access subject field := by
          rintro subject field rfl
          exact hguarded rfl
        unfold visitsInside
        rw [judge_withSchema hcheck]
        cases context.judge scope check with
        | error failure => rfl
        | ok narrowing => exact ihGuarded (scope.narrow narrowing) (parent ++ [index]) 0
    rw [visits_cons, visits_cons, hinside, ihRest]

/-- An access to a nominal type is accepted exactly when the schema has the field. -/
theorem judge_access_nominal {subject : Subject} {typeName field : String}
    (hsubject : context.subjectType scope subject = .ok (.nominal typeName)) :
    context.judge scope (.access subject field) =
      if context.checker.schema.hasField typeName field then .ok none
      else .error (RuleError.missingField typeName field).toFailure := by
  cases hfield : context.checker.schema.hasField typeName field <;>
    simp [judge, hsubject, Checker.checkAccess, hfield, bind, Except.bind, pure, Except.pure]

/-- What an access to a nominal type misses is the field, unless the schema has it. -/
theorem missingField?_access_nominal {subject : Subject} {typeName field : String}
    (hsubject : context.subjectType scope subject = .ok (.nominal typeName)) :
    context.missingField? scope (.access subject field) =
      if context.checker.schema.hasField typeName field then none
      else some (typeName, field) := by
  cases hfield : context.checker.schema.hasField typeName field <;>
    simp [missingField?, hsubject, Checker.checkAccess, hfield]

/-- Under a schema with more fields, an access is accepted if the field that it misses is supplied,
and every other check fares as before. -/
theorem diagnostics_withSchema
    (hle : ∀ typeName field, context.checker.schema.hasField typeName field = true →
      schema.hasField typeName field = true) (visit : Visit) :
    (context.withSchema schema).diagnostics visit =
      if schema.supplies (context.missingField? visit.scope visit.check) then []
      else context.diagnostics visit := by
  obtain ⟨position, check, scope⟩ := visit
  cases check with
  | assign name value => rfl
  | test subject target guarded => rfl
  | access subject field =>
    have hsubject : (context.withSchema schema).subjectType scope subject =
        context.subjectType scope subject := rfl
    cases htype : context.subjectType scope subject with
    | error failure =>
      simp [diagnostics, judge, missingField?, hsubject, htype, Schema.supplies, bind, Except.bind]
    | ok type =>
      cases type with
      | union members =>
        simp [diagnostics, judge, missingField?, hsubject, htype, Schema.supplies, bind,
          Except.bind, Checker.checkAccess]
      | nominal typeName =>
        have hschema : (context.withSchema schema).checker.schema = schema := rfl
        simp only [diagnostics]
        rw [judge_access_nominal (hsubject.trans htype), judge_access_nominal htype,
          missingField?_access_nominal htype, hschema]
        cases hfirst : context.checker.schema.hasField typeName field with
        | true => simp [hle typeName field hfirst, Schema.supplies]
        | false =>
          cases hsecond : schema.hasField typeName field <;> simp [Schema.supplies, hsecond]

/-- A check that misses a field guards nothing, and is rejected for just that, only where the schema
does not have the field. -/
theorem judge_of_missingField {check : Check} {typeName field : String}
    (h : context.missingField? scope check = some (typeName, field)) :
    check.guarded = [] ∧ context.checker.schema.hasField typeName field = false ∧
      context.judge scope check = .error (RuleError.missingField typeName field).toFailure := by
  cases check with
  | assign name value => cases h
  | test subject target guarded => cases h
  | access subject field' =>
    cases hsubject : context.subjectType scope subject with
    | error failure => simp [missingField?, hsubject] at h
    | ok type =>
      cases type with
      | union members => simp [missingField?, hsubject, Checker.checkAccess] at h
      | nominal typeName' =>
        rw [missingField?_access_nominal hsubject] at h
        cases hfield : context.checker.schema.hasField typeName' field' with
        | true => simp [hfield] at h
        | false =>
          obtain ⟨rfl, rfl⟩ : typeName' = typeName ∧ field' = field := by simpa [hfield] using h
          exact ⟨rfl, hfield, by simp [judge_access_nominal hsubject, hfield]⟩

/-- A failure that is told to be about a missing field is one. -/
theorem exists_missingField_of_kind {check : Check} {failure : Failure}
    (hjudge : context.judge scope check = .error failure)
    (hkind : failure.kind = "missing-field") :
    ∃ missing, context.missingField? scope check = some missing := by
  cases failsFor_of_judge hjudge with
  | reference => simp [Failure.emptyUnion, Failure.kind] at hkind
  | undeclared => simp [Failure.kind] at hkind
  | subject => simp [Failure.kind] at hkind
  | @rule error hrejected =>
    rw [RuleError.kind_toFailure] at hkind
    cases hrejected with
    | assign _ _ hrule =>
      unfold Checker.checkAssignment at hrule
      split at hrule
      · cases hrule
      · split at hrule <;> cases hrule <;> simp [RuleError.kind] at hkind
    | test _ _ hrule =>
      unfold Checker.checkTest at hrule
      split at hrule
      · cases hrule
      · split at hrule <;> cases hrule <;> simp [RuleError.kind] at hkind
    | access hsubject hrule =>
      cases error with
      | missingField typeName field' =>
        exact ⟨(typeName, field'), by simp [missingField?, hsubject, hrule]⟩
      | _ => simp [RuleError.kind] at hkind

end Context

/-- A step that misses a field reports the error that says so, and nothing else. -/
theorem Step.diagnostics_of_missingField {step : Step} {typeName field : String}
    (h : step.missingField? = some (typeName, field)) :
    step.runner.checker.schema.hasField typeName field = false ∧
      step.diagnostics = [(Diagnostic.ofFailure
        (RuleError.missingField typeName field).toFailure).addNote
          s!"while checking `{step.check.text}`"] := by
  obtain ⟨hguarded, hfield, hjudge⟩ := Context.judge_of_missingField h
  rw [← Runner.judge_eq] at hjudge
  exact ⟨hfield, by simp [diagnostics, hjudge, Check.rejection, Check.skipRemark, hguarded]⟩

/-- A step that misses no field reports nothing that is told to be about a missing field. -/
theorem Step.kind_ne_of_missingField {step : Step} (h : step.missingField? = none)
    {diagnostic : Diagnostic} (hdiagnostic : diagnostic ∈ step.diagnostics) :
    diagnostic.kind? ≠ some "missing-field" := by
  cases hjudge : step.runner.judge step.check with
  | ok narrowing => simp [diagnostics, hjudge] at hdiagnostic
  | error failure =>
    simp only [diagnostics, hjudge, Check.rejection, List.mem_cons] at hdiagnostic
    rcases hdiagnostic with rfl | hremark
    · intro hkind
      rw [Runner.judge_eq] at hjudge
      obtain ⟨missing, hmissing⟩ :=
        Context.exists_missingField_of_kind hjudge (Option.some.inj hkind)
      rw [missingField?, hmissing] at h
      cases h
    · simp [Check.kind?_of_mem_skipRemark hremark]

/-- A declaration does not fail for a missing field. -/
theorem Runner.kind_ne_of_enlist {runner : Runner} {declaration : Declaration} {failure : Failure}
    (h : runner.enlist declaration = .error failure) : failure.kind ≠ "missing-field" := by
  rcases bind_eq_error_iff.mp h with hresolve | ⟨type, _, hdeclare⟩
  · rw [TypeRef.eq_emptyUnion_of_resolve hresolve]
    decide
  · rcases SymbolTable.declare_eq_error_iff.mp hdeclare with ⟨_, rfl⟩ | ⟨_, _, rfl⟩ <;>
      simp [Failure.kind]

/-- Nor do declarations add reports of missing fields, one after the other. -/
theorem Runner.kind_ne_of_mem_foldl_declare {runner : Runner} {declarations : List Declaration}
    (hrunner : ∀ diagnostic ∈ runner.report.diagnostics, diagnostic.kind? ≠ some "missing-field") :
    ∀ diagnostic ∈ (declarations.foldl declare runner).report.diagnostics,
      diagnostic.kind? ≠ some "missing-field" := by
  induction declarations generalizing runner with
  | nil => exact hrunner
  | cons declaration rest ih =>
    rw [List.foldl_cons]
    apply ih
    cases henlist : runner.enlist declaration with
    | ok result =>
      rw [declare_of_ok henlist]
      exact hrunner
    | error failure =>
      rw [declare_of_error henlist]
      intro diagnostic hdiagnostic
      rcases List.mem_append.mp hdiagnostic with hbefore | hadded
      · exact hrunner diagnostic hbefore
      · rw [List.mem_singleton.mp hadded]
        intro hkind
        exact kind_ne_of_enlist henlist (Option.some.inj hkind)

/-- Runners with the same symbols, narrowings and report lead through the same declarations to the
same symbols, scope and report; each keeps its own rules. -/
theorem Runner.foldl_declare_ready (runner runner' : Runner)
    (hsymbols : runner.symbols = runner'.symbols)
    (hnarrowings : runner.narrowings = runner'.narrowings)
    (hreport : runner.report = runner'.report) (declarations : List Declaration) :
    (declarations.foldl declare runner).context =
        ⟨runner.checker, (declarations.foldl declare runner').context.symbols⟩ ∧
      (declarations.foldl declare runner).scope = (declarations.foldl declare runner').scope ∧
      (declarations.foldl declare runner).report = (declarations.foldl declare runner').report := by
  obtain ⟨hsymbols, hreport⟩ := foldl_declare_congr hsymbols hreport declarations
  obtain ⟨hchecker, hkept⟩ := foldl_declare_unchanged runner declarations
  obtain ⟨-, hkept'⟩ := foldl_declare_unchanged runner' declarations
  refine ⟨?_, ?_, hreport⟩
  · exact congr (congrArg Context.mk hchecker) hsymbols
  · unfold scope
    rw [hkept, hkept', hnarrowings]

namespace Script

variable {script : Script} {config : Config}

/-- The checks are judged by the given setting and schema, and no narrowing is in force when they
begin. -/
theorem checker_readyUnder (script : Script) (config : Config) (schema : Schema) :
    (script.readyUnder config schema).checker = ⟨schema, config⟩ ∧
      (script.readyUnder config schema).narrowings = [] :=
  Runner.foldl_declare_unchanged { checker := ⟨schema, config⟩ } script.declarations

/-- What the checks have in common under one schema they have in common under the other, the schema
apart, and the declarations are reported alike. -/
theorem context_readyUnder (script : Script) (config : Config) (schema schema' : Schema) :
    (script.readyUnder config schema').context =
        (script.readyUnder config schema).context.withSchema schema' ∧
      (script.readyUnder config schema').scope = (script.readyUnder config schema).scope ∧
      (script.readyUnder config schema').report = (script.readyUnder config schema).report := by
  obtain ⟨hcontext, hscope, hreport⟩ :=
    Runner.foldl_declare_ready { checker := ⟨schema', config⟩ } { checker := ⟨schema, config⟩ }
      rfl rfl rfl script.declarations
  have hchecker : (script.readyUnder config schema).context.checker = ⟨schema, config⟩ :=
    (checker_readyUnder script config schema).1
  refine ⟨hcontext.trans ?_, hscope, hreport⟩
  rw [Context.withSchema, hchecker]
  rfl

/-- A script's own run is one under its own schema. -/
theorem report_run (script : Script) (override : Option Config) :
    (script.run override).report =
      (script.runUnder (override.getD script.config) script.schema).report := by
  obtain ⟨hcontext, hscope, hreport⟩ :=
    Runner.foldl_declare_ready (script.start override)
      { checker := ⟨script.schema, override.getD script.config⟩ } rfl rfl rfl script.declarations
  have hchecker := (checker_readyUnder script (override.getD script.config) script.schema).1
  have hcontext : (script.ready override).context =
      (script.readyUnder (override.getD script.config) script.schema).context :=
    hcontext.trans (congrArg (Context.mk · _) hchecker.symm)
  have hscope : (script.ready override).scope =
      (script.readyUnder (override.getD script.config) script.schema).scope := hscope
  rw [run_eq, runUnder, Runner.report_runChecks, Runner.report_runChecks, hcontext, hscope]
  exact congrArg (List.foldl Report.add · _) hreport

/-- The findings of a script hold the diagnostics of its run, in order. -/
theorem diagnostics_runUnder (script : Script) (config : Config) (schema : Schema) :
    (script.runUnder config schema).report.diagnostics =
      (script.findings config schema).map Finding.diagnostic := by
  rw [runUnder, Runner.diagnostics_runChecks, ← Runner.flatMap_diagnostics_steps _ [] 0, findings,
    List.map_append, List.map_flatMap, Finding.map_diagnostic_map_mk]
  simp only [Step.findings, Finding.map_diagnostic_map_mk]
  rfl

/-- Under a schema with more fields, a script reports what it reports under the first one, without
the findings whose field is supplied. -/
theorem diagnostics_runUnder_of_le {schema schema' : Schema}
    (hle : ∀ typeName field, schema.hasField typeName field = true →
      schema'.hasField typeName field = true) :
    (script.runUnder config schema').report.diagnostics =
      ((script.findings config schema).filter
        fun finding => !schema'.supplies finding.missing?).map Finding.diagnostic := by
  obtain ⟨hcontext, hscope, hreport⟩ := context_readyUnder script config schema schema'
  have hchecker := (checker_readyUnder script config schema).1
  obtain ⟨hvisits, hcontexts⟩ := Runner.steps_visits (script.readyUnder config schema) [] 0
    script.checks
  have hle' : ∀ typeName field,
      (script.readyUnder config schema).context.checker.schema.hasField typeName field = true →
        schema'.hasField typeName field = true := by
    change ∀ typeName field,
      (script.readyUnder config schema).checker.schema.hasField typeName field = true → _
    rw [hchecker]
    exact hle
  have hstep : ∀ step ∈ script.stepsUnder config schema,
      (script.readyUnder config schema').context.diagnostics step.visit =
        (step.findings.filter fun finding => !schema'.supplies finding.missing?).map
          Finding.diagnostic := by
    intro step hstep
    have hown : (script.readyUnder config schema).context.diagnostics step.visit =
        step.diagnostics := by
      rw [Step.diagnostics, Context.diagnostics, Runner.judge_eq, hcontexts step hstep]
      rfl
    have hmissing : (script.readyUnder config schema).context.missingField? step.visit.scope
        step.visit.check = step.missingField? := by
      rw [Step.missingField?, hcontexts step hstep]
      rfl
    rw [hcontext, Context.diagnostics_withSchema hle', hmissing, hown, Step.findings,
      List.filter_map]
    cases hsupplied : schema'.supplies step.missingField? <;> simp [Function.comp_def, hsupplied]
  have hdeclared : ((script.readyUnder config schema).report.diagnostics.map
        (Finding.mk · none)).filter (fun finding => !schema'.supplies finding.missing?) =
      (script.readyUnder config schema).report.diagnostics.map (Finding.mk · none) := by
    simp [List.filter_eq_self, Schema.supplies]
  rw [runUnder, Runner.diagnostics_runChecks, ← Context.flatMap_diagnostics_visits _ _ [] 0, hscope,
    hreport, findings, List.filter_append, List.map_append, hdeclared, List.filter_flatMap,
    List.map_flatMap]
  have hdiagnostics : (script.readyUnder config schema').context.visits
      (script.readyUnder config schema).scope [] 0 script.checks =
        (script.stepsUnder config schema).map Step.visit := by
    rw [hcontext, Context.visits_withSchema, ← hvisits]
    rfl
  rw [hdiagnostics, List.flatMap_map, List.flatMap_congr hstep, Finding.map_diagnostic_map_mk]

/-- A finding that misses a field is the error that says so, and the schema does not have the field.
Any other finding is told to be about something else. -/
theorem missing_of_mem_findings {schema : Schema} {finding : Finding}
    (hfinding : finding ∈ script.findings config schema) :
    (∀ typeName field, finding.missing? = some (typeName, field) →
      schema.hasField typeName field = false ∧
        ∃ note, finding.diagnostic =
          (Diagnostic.ofFailure (RuleError.missingField typeName field).toFailure).addNote note) ∧
    (finding.missing? = none → finding.diagnostic.kind? ≠ some "missing-field") := by
  rcases List.mem_append.mp hfinding with hdeclared | hchecked
  · obtain ⟨diagnostic, hdiagnostic, rfl⟩ := List.mem_map.mp hdeclared
    refine ⟨nofun, fun _ => ?_⟩
    exact Runner.kind_ne_of_mem_foldl_declare (by simp [Report.empty]) diagnostic hdiagnostic
  · obtain ⟨step, hstep, hmem⟩ := List.mem_flatMap.mp hchecked
    obtain ⟨diagnostic, hdiagnostic, rfl⟩ := List.mem_map.mp hmem
    refine ⟨fun typeName field hmissing => ?_, fun hmissing =>
      Step.kind_ne_of_missingField hmissing hdiagnostic⟩
    obtain ⟨hfield, hdiagnostics⟩ := Step.diagnostics_of_missingField hmissing
    have hcontext := (Runner.steps_visits (script.readyUnder config schema) [] 0
      script.checks).2 step hstep
    have hchecker : step.runner.checker = ⟨schema, config⟩ :=
      (congrArg Context.checker hcontext).trans (checker_readyUnder script config schema).1
    rw [hchecker] at hfield
    rw [hdiagnostics, List.mem_singleton] at hdiagnostic
    exact ⟨hfield, _, hdiagnostic⟩

/-- Of two schemas, the second has all fields of the first. Then a script reports under the second
what it reports under the first, in the same order, without the errors about missing fields that the
second schema has: these are deleted, and nothing else is. The script's own run is the one under its
own schema. -/
theorem report_of_larger_schema (script : Script) (config : Config) (schema schema' : Schema)
    (hle : ∀ typeName field, schema.hasField typeName field = true →
      schema'.hasField typeName field = true) :
    (script.runUnder config schema).report.diagnostics =
        (script.findings config schema).map Finding.diagnostic ∧
      (script.runUnder config schema').report.diagnostics =
        ((script.findings config schema).filter
          fun finding => !schema'.supplies finding.missing?).map Finding.diagnostic ∧
      (∀ finding ∈ script.findings config schema,
        (∀ typeName field, finding.missing? = some (typeName, field) →
          schema.hasField typeName field = false ∧
            ∃ note, finding.diagnostic =
              (Diagnostic.ofFailure
                (RuleError.missingField typeName field).toFailure).addNote note) ∧
        (finding.missing? = none → finding.diagnostic.kind? ≠ some "missing-field")) ∧
      ∀ override, (script.run override).report =
        (script.runUnder (override.getD script.config) script.schema).report :=
  ⟨diagnostics_runUnder script config schema, diagnostics_runUnder_of_le hle,
    fun _ hfinding => missing_of_mem_findings hfinding, report_run script⟩

/-- A script that reads two fields where its symbol is narrowed to `Point`, and one where it is
not. -/
def reading : Script where
  declarations := [⟨"p", .union [.named "int", .named "Point"]⟩]
  checks :=
    [.test { symbol? := some "p" } (.named "Point")
      [.access { symbol? := some "p" } "z", .access { symbol? := some "p" } "w"],
    .access { symbol? := some "p" } "z"]

/-- With a third coordinate for `Point`, one of the errors of the script goes away, and the access
through the union stays an error. -/
theorem reading_report_of_larger_schema :
    let spatial := Schema.ofPairs [("Point", "x"), ("Point", "y"), ("Point", "z")]
    (∀ typeName field, Schema.builtin.hasField typeName field = true →
      spatial.hasField typeName field = true) ∧
    (reading.findings {} .builtin).map Finding.missing? =
      [some ("Point", "z"), some ("Point", "w"), none] ∧
    (reading.runUnder {} spatial).report.diagnostics =
      ((reading.findings {} .builtin).filter
        fun finding => !spatial.supplies finding.missing?).map Finding.diagnostic := by
  intro spatial
  have hle : ∀ typeName field, Schema.builtin.hasField typeName field = true →
      spatial.hasField typeName field = true := by
    intro typeName field hfield
    simp only [Schema.builtin, Bool.and_eq_true, beq_iff_eq, Bool.or_eq_true] at hfield
    obtain ⟨rfl, rfl | rfl⟩ := hfield <;> rfl
  exact ⟨hle, rfl, (report_of_larger_schema reading {} .builtin spatial hle).2.1⟩

end Script

end Narrowing
