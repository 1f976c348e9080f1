import Mathlib.Logic.Equiv.Basic
import Narrowing.Proofs.Run.Accounting
import Narrowing.Proofs.Run.Schemas
import Narrowing.Proofs.Run.SideBySide
import Narrowing.Proofs.Ty.Renaming

/-!
# Scripts with renamed types

No name of a nominal type means anything to the rules, except that by name a type with the name of
the unions equals every union. So a script may be run with other names for its types, if the schema
knows their fields by the new names: the same checks are made, accepted and rejected, and the
reports have the same severities and kinds.
-/

namespace Narrowing

variable {naming : String → String}

/-- The second type is the first one, renamed. -/
def Ty.RenamedTo (naming : String → String) (type type' : Ty) : Prop :=
  type' = type.rename naming

/-- The subject with other names for the types in it. -/
def Subject.rename (naming : String → String) (subject : Subject) : Subject :=
  { subject with type? := subject.type?.map (TypeRef.rename naming) }

namespace Check

mutual

/-- The check with other names for the types in it, and in the checks that it guards. -/
def rename (naming : String → String) : Check → Check
  | .assign symbol value => .assign symbol (value.rename naming)
  | .test subject target guarded =>
    .test (subject.rename naming) (target.rename naming) (renameAll naming guarded)
  | .access subject field => .access (subject.rename naming) field

/-- The listed checks, with other names for the types in them. -/
def renameAll (naming : String → String) : List Check → List Check
  | [] => []
  | check :: rest => check.rename naming :: renameAll naming rest

end

end Check

/-- The script with other names for the types in its declarations and checks. -/
def Script.rename (naming : String → String) (script : Script) : Script :=
  { script with
    declarations := script.declarations.map fun declaration =>
      { declaration with type := declaration.type.rename naming }
    checks := Check.renameAll naming script.checks }

/-- What comes of the check of a step: its position, whether it is accepted, and the positions of
the checks that are skipped with it. -/
def Step.outcome (step : Step) : List Nat × Bool × List (List Nat) :=
  (step.position, step.accepted, step.skipped.map Node.position)

/-! ### Rules -/

/-- A renamed type admits what the type admits, renamed. -/
theorem Checker.admits_rename {checker checker' : Checker}
    (hconfig : checker'.config = checker.config) (hinjective : Function.Injective naming)
    (hunion : checker.config.unionEquality = .byName →
      ∀ name, naming name = Ty.unionName ↔ name = Ty.unionName) (declared type : Ty) :
    checker'.admits (declared.rename naming) (type.rename naming) =
      checker.admits declared type := by
  have hequal : ∀ a b : Ty,
      checker'.typesEqual (a.rename naming) (b.rename naming) = checker.typesEqual a b := by
    intro a b
    unfold typesEqual
    rw [hconfig]
    exact UnionEquality.typesEqual_rename hinjective hunion a b
  cases declared with
  | nominal name =>
    have hname := hequal (.nominal name) type
    rwa [Ty.rename_nominal] at hname
  | union members =>
    simp only [Ty.rename_union, admits, contains, List.any_map, Function.comp_def, hequal]

/-- The rules do not tell types from renamed ones whose fields the schema knows by the new names. -/
theorem Checker.related_of_rename {checker checker' : Checker}
    (hconfig : checker'.config = checker.config) (hinjective : Function.Injective naming)
    (hunion : checker.config.unionEquality = .byName →
      ∀ name, naming name = Ty.unionName ↔ name = Ty.unionName)
    (hschema : ∀ typeName field,
      checker'.schema.hasField (naming typeName) field = checker.schema.hasField typeName field) :
    checker.Related (Ty.RenamedTo naming) checker' where
  isUnion := by
    rintro type _ rfl
    rw [Ty.isUnion_rename]
  admits := by
    rintro type _ other _ rfl rfl
    rw [admits_rename hconfig hinjective hunion]
  hasField := by
    intro name name' hname field
    rw [Ty.RenamedTo, Ty.rename_nominal] at hname
    cases hname
    rw [hschema]

/-! ### Forests -/

/-- A renamed reference stands for the renamed type. -/
theorem TypeRef.related_rename (naming : String → String) (reference : TypeRef) :
    reference.Related (Ty.RenamedTo naming) (reference.rename naming) := by
  unfold Related
  rw [resolve_rename]
  cases reference.resolve with
  | error failure => exact rfl
  | ok type => exact rfl

theorem Subject.matching_rename (naming : String → String) (subject : Subject) :
    subject.Matching (TypeRef.Related (Ty.RenamedTo naming)) (subject.rename naming) := by
  obtain ⟨symbol?, type?⟩ := subject
  refine ⟨rfl, ?_⟩
  cases type? with
  | none => exact .none
  | some reference => exact .some (reference.related_rename naming)

namespace Check

/-- A renamed forest differs from the forest in its references only. -/
theorem matchingAll_renameAll (naming : String → String) (checks : List Check) :
    MatchingAll (TypeRef.Related (Ty.RenamedTo naming)) checks (renameAll naming checks) := by
  induction checks using Check.forest_induction with
  | nil => exact .nil
  | cons check rest ihGuarded ihRest =>
    cases check with
    | assign name value => exact .cons (.assign (value.related_rename naming)) .nil ihRest
    | test subject target guarded =>
      exact .cons (.test (subject.matching_rename naming) (target.related_rename naming)) ihGuarded
        ihRest
    | access subject field => exact .cons (.access (subject.matching_rename naming)) .nil ihRest

/-- Matching forests have their nodes at the same positions. -/
theorem MatchingAll.map_position_nodes {R : TypeRef → TypeRef → Prop} {checks checks' : List Check}
    (h : MatchingAll R checks checks') (parent : List Nat) (index : Nat) :
    (nodes parent index checks).map Node.position =
      (nodes parent index checks').map Node.position := by
  induction h generalizing parent index with
  | nil => rw [nodes_nil]
  | cons _ _ _ ihGuarded ihRest =>
    rw [nodes_cons, nodes_cons, List.map_cons, List.map_cons, List.map_append, List.map_append,
      ihGuarded, ihRest]

end Check

/-! ### Runs -/

/-- Related runners have the same outcomes along matching forests. -/
theorem Runner.Related.map_outcome_steps {T : Ty → Ty → Prop} {runner runner' : Runner}
    (h : runner.Related T runner') (hchecker : runner.checker.Related T runner'.checker)
    (hscope : runner.scope.Related T runner'.scope) {checks checks' : List Check}
    (hchecks : Check.MatchingAll (TypeRef.Related T) checks checks') :
    (runner.steps [] 0 checks).map Step.outcome =
      (runner'.steps [] 0 checks').map Step.outcome := by
  have hcontext : runner.context.Related T runner'.context := ⟨hchecker, h.symbols⟩
  have houtcome : ∀ (runner : Runner) (checks : List Check),
      (runner.steps [] 0 checks).map Step.outcome =
        (runner.context.visits runner.scope [] 0 checks).map fun visit =>
          (visit.position, runner.context.accepts visit,
            (runner.context.skipped visit).map Node.position) := by
    intro runner checks
    apply map_steps
    intro step hstep
    rw [Step.outcome, Step.skipped, accepted_eq hstep]
    rfl
  rw [houtcome, houtcome]
  refine map_eq_map_of_forall₂ (Context.visits_alike hcontext hscope hchecks [] 0)
    fun visit visit' hvisit => ?_
  rw [Context.skipped, Context.skipped, hvisit.accepts_eq, hvisit.position]
  cases runner'.context.accepts visit' with
  | true => rfl
  | false => simp [hvisit.guarded.map_position_nodes]

namespace Script

/-- Renamed declarations differ from the declarations in their references only. -/
theorem declarations_rename (naming : String → String) (script : Script) :
    List.Forall₂ (Declaration.Matching (TypeRef.Related (Ty.RenamedTo naming))) script.declarations
      (script.rename naming).declarations := by
  unfold rename
  induction script.declarations with
  | nil => exact .nil
  | cons declaration rest ih =>
    exact .cons ⟨rfl, declaration.type.related_rename naming⟩ ih

/-- With the schema renamed alike, a renamed script has the outcomes of the script, and its report
has the same severities and kinds. -/
theorem outcomes_rename (script : Script) (config : Config) {schema schema' : Schema}
    (hinjective : Function.Injective naming)
    (hunion : config.unionEquality = .byName →
      ∀ name, naming name = Ty.unionName ↔ name = Ty.unionName)
    (hschema : ∀ typeName field,
      schema'.hasField (naming typeName) field = schema.hasField typeName field) :
    ((script.rename naming).stepsUnder config schema').map Step.outcome =
        (script.stepsUnder config schema).map Step.outcome ∧
      ((script.rename naming).runUnder config schema').report.diagnostics.map Diagnostic.summary =
        (script.runUnder config schema).report.diagnostics.map Diagnostic.summary := by
  have hstart : Runner.Related (Ty.RenamedTo naming) { checker := ⟨schema, config⟩ }
      { checker := ⟨schema', config⟩ } := ⟨.nil, rfl⟩
  have hready : (script.readyUnder config schema).Related (Ty.RenamedTo naming)
      ((script.rename naming).readyUnder config schema') :=
    (hstart.declareAll (script.declarations_rename naming)).2
  obtain ⟨hfirst, hnone⟩ := script.checker_readyUnder config schema
  obtain ⟨hsecond, hnone'⟩ := (script.rename naming).checker_readyUnder config schema'
  have hchecker : (script.readyUnder config schema).checker.Related (Ty.RenamedTo naming)
      ((script.rename naming).readyUnder config schema').checker := by
    rw [hfirst, hsecond]
    exact Checker.related_of_rename rfl hinjective hunion hschema
  have hscope : (script.readyUnder config schema).scope.Related (Ty.RenamedTo naming)
      ((script.rename naming).readyUnder config schema').scope := by
    intro name
    unfold Runner.scope
    rw [hnone, hnone']
    exact .none
  have hchecks := Check.matchingAll_renameAll naming script.checks
  exact ⟨(hready.map_outcome_steps hchecker hscope hchecks).symm,
    (hready.runChecks hchecker hscope hchecks).symm⟩

/-- A test for a type with the name of the unions, of a symbol with a union among its members. -/
def disguised : Script where
  declarations := [⟨"x", .union [.union [.named "int"], .named "str"]⟩]
  checks := [.test { symbol? := some "x" } (.named "union") [.access { symbol? := some "x" } "f"]]

/-- No name of a type means anything, but for one by name. Let a renaming give different names to
different types and, by name, let the name of the unions remain theirs alone. Then a renamed script,
with a schema that is renamed alike, has the same checks accepted, rejected and skipped, and reports
the same severities and kinds. The run of a script is one under its own schema. Without the
condition on the name of the unions the outcomes may differ by name. -/
theorem outcomes_of_renaming :
    (∀ (script : Script) (config : Config) (schema schema' : Schema) (naming : String → String),
      Function.Injective naming →
      (config.unionEquality = .byName →
        ∀ name, naming name = Ty.unionName ↔ name = Ty.unionName) →
      (∀ typeName field,
        schema'.hasField (naming typeName) field = schema.hasField typeName field) →
      ((script.rename naming).stepsUnder config schema').map Step.outcome =
          (script.stepsUnder config schema).map Step.outcome ∧
        ((script.rename naming).runUnder config schema').report.diagnostics.map
            Diagnostic.summary =
          (script.runUnder config schema).report.diagnostics.map Diagnostic.summary) ∧
    (∀ (script : Script) (override : Option Config), (script.run override).report =
      (script.runUnder (override.getD script.config) script.schema).report) ∧
    ¬ ∀ (script : Script) (schema schema' : Schema) (naming : String → String),
      Function.Injective naming →
      (∀ typeName field,
        schema'.hasField (naming typeName) field = schema.hasField typeName field) →
      ((script.rename naming).stepsUnder { unionEquality := .byName } schema').map Step.outcome =
        (script.stepsUnder { unionEquality := .byName } schema).map Step.outcome := by
  refine ⟨fun script config _ _ _ => script.outcomes_rename config, report_run, fun h => ?_⟩
  have hinjective : Function.Injective (Equiv.swap "union" "a") := (Equiv.swap _ _).injective
  have hschema : ∀ typeName field, (Schema.ofPairs []).hasField
      (Equiv.swap "union" "a" typeName) field = (Schema.ofPairs []).hasField typeName field :=
    fun _ _ => rfl
  exact absurd (h disguised _ _ _ hinjective hschema) (by decide)

/-- With the names `int` and `Point` exchanged, also in the schema, the script of a point that is
read has the outcomes that it had. -/
theorem reading_outcomes_exchanged :
    let naming := Equiv.swap "int" "Point"
    let exchanged : Schema := .ofPairs [("int", "x"), ("int", "y")]
    Function.Injective naming ∧
      (∀ name, naming name = Ty.unionName ↔ name = Ty.unionName) ∧
      (∀ typeName field,
        exchanged.hasField (naming typeName) field = Schema.builtin.hasField typeName field) ∧
      ((reading.rename naming).stepsUnder {} exchanged).map Step.outcome =
        [([0], true, []), ([0, 0], false, []), ([0, 1], false, []), ([1], false, [])] := by
  intro naming exchanged
  have hinjective : Function.Injective naming := naming.injective
  have hown : naming Ty.unionName = Ty.unionName := by decide
  have hunion : ∀ name, naming name = Ty.unionName ↔ name = Ty.unionName :=
    fun _ => hinjective.eq_iff' hown
  have hschema : ∀ typeName field, exchanged.hasField (naming typeName) field =
      Schema.builtin.hasField typeName field := by
    intro typeName field
    have hpoint : naming "Point" = "int" := by decide
    rw [Bool.eq_iff_iff]
    by_cases htype : typeName = "Point"
    · simp [exchanged, Schema.ofPairs, Schema.builtin, htype, hpoint]
    · have hother : naming typeName ≠ "int" := mt (hinjective.eq_iff' hpoint).mp htype
      simp [exchanged, Schema.ofPairs, Schema.builtin, htype, hother]
  refine ⟨hinjective, hunion, hschema, ?_⟩
  rw [(outcomes_of_renaming.1 reading {} .builtin exchanged naming hinjective (fun _ => hunion)
    hschema).1]
  decide

end Script

end Narrowing
