import Narrowing.Proofs.Rules.Congruence
import Narrowing.Proofs.Run.SideBySide
import Narrowing.Proofs.Ty.Reference

/-!
# Scripts that differ in their references only

Two scripts of the same shape, with similar references at the same places, are run side by side.
The symbols and the narrowings of the two runs need not have the same types, but they have types
that are equal by structure, which the rules treat alike under either setting. So the runs make the
same checks, with the same verdicts and with failures of the same kinds.
-/

namespace Narrowing

section

variable (R : TypeRef → TypeRef → Prop)

/-- Scripts that differ in their references only, and have related references at the same places. -/
structure Script.Matching (script script' : Script) : Prop where
  /-- The settings are the same. -/
  config : script.config = script'.config
  /-- The fields are the same. -/
  fields : script.fields? = script'.fields?
  /-- The declarations differ in their references only. -/
  declarations : List.Forall₂ (Declaration.Matching R) script.declarations script'.declarations
  /-- The checks differ in their references only. -/
  checks : Check.MatchingAll R script.checks script'.checks

end

/-- Scripts whose references are related are scripts whose references are related more loosely. -/
theorem Script.Matching.mono {R S : TypeRef → TypeRef → Prop} (hRS : ∀ a b, R a b → S a b)
    {script script' : Script} (h : script.Matching R script') : script.Matching S script' where
  config := h.config
  fields := h.fields
  declarations := h.declarations.imp fun _ _ hdeclaration => hdeclaration.mono hRS
  checks := h.checks.mono hRS

/-- The rules do not tell types that are equal by structure apart. -/
theorem Checker.related_of_eqStructure (checker : Checker) :
    checker.Related (fun type type' => type.eqStructure type' = true) checker where
  isUnion := Ty.isUnion_eq_of_eqStructure
  admits := checker.admits_congr
  hasField := by
    intro name name' hname field
    obtain rfl : name = name' := by simpa using hname
    rfl

namespace Script

/-- Scripts that nobody can tell apart by their verdicts: the declarations fare the same, the same
checks are made, accepted and rejected, and the reports have the same severities and kinds in the
same order. -/
structure SameVerdicts (script script' : Script) (override : Option Config) : Prop where
  /-- The declarations are accepted and rejected alike. -/
  declarations : script.declarationVerdicts override = script'.declarationVerdicts override
  /-- The checks that are made, with their positions, are accepted and rejected alike. -/
  checks : (script.steps override).map (fun step => (step.position, step.accepted)) =
    (script'.steps override).map fun step => (step.position, step.accepted)
  /-- The reports agree on severities and kinds. -/
  report : (script.run override).report.diagnostics.map Diagnostic.summary =
    (script'.run override).report.diagnostics.map Diagnostic.summary

/-- The verdicts on the steps of a script are those on the visits of its lexical scopes. -/
theorem steps_verdicts (script : Script) (override : Option Config) :
    (script.steps override).map (fun step => (step.position, step.accepted)) =
      ((script.ready override).context.visits (script.ready override).scope [] 0
        script.checks).map fun visit =>
          (visit.position, (script.ready override).context.accepts visit) :=
  Runner.map_steps _ _ fun _ hstep => Prod.ext rfl (Runner.accepted_eq hstep)

/-- Scripts with similar references at the same places have the same verdicts. -/
theorem Matching.sameVerdicts {script script' : Script}
    (h : script.Matching TypeRef.Similar script') (override : Option Config) :
    script.SameVerdicts script' override := by
  have hstart : (script.start override).Related
      (fun type type' => type.eqStructure type' = true) (script'.start override) := ⟨.nil, rfl⟩
  obtain ⟨hdeclarations, hready⟩ := hstart.declareAll <| h.declarations.imp fun _ _ hdeclaration =>
    hdeclaration.mono fun _ _ => TypeRef.Similar.alike
  have hchecker : (script.ready override).checker.Related
      (fun type type' => type.eqStructure type' = true) (script'.ready override).checker := by
    rw [checker_ready, checker_ready, schema, schema, h.fields, h.config]
    exact Checker.related_of_eqStructure _
  have hscope : (script.ready override).scope.Related
      (fun type type' => type.eqStructure type' = true) (script'.ready override).scope := by
    intro name
    rw [scope_ready, scope_ready]
    exact .none
  have hcontext : (script.ready override).context.Related
      (fun type type' => type.eqStructure type' = true) (script'.ready override).context :=
    ⟨hchecker, hready.symbols⟩
  have hchecks := h.checks.mono fun _ _ => TypeRef.Similar.alike
  refine ⟨hdeclarations, ?_, hready.runChecks hchecker hscope hchecks⟩
  rw [steps_verdicts, steps_verdicts]
  exact map_eq_map_of_forall₂ (Context.visits_alike hcontext hscope hchecks [] 0)
    fun _ _ hvisit => Prod.ext hvisit.position hvisit.accepts_eq

/-- Whatever the setting, scripts have the same verdicts if their references at the same places are
similar, and so they have if these differ in the order and the repetition of union members only. -/
theorem verdicts_of_similar_references :
    (∀ (script script' : Script) (override : Option Config),
      script.Matching TypeRef.Similar script' → script.SameVerdicts script' override) ∧
    ∀ (script script' : Script) (override : Option Config),
      script.Matching (Rearrangeable TypeRef.union) script' →
        script.SameVerdicts script' override := by
  constructor
  · intro script script' override h
    exact h.sameVerdicts override
  · intro script script' override h
    have hsimilar : script.Matching TypeRef.Similar script' :=
      h.mono fun _ _ => TypeRef.similar_of_rearrangeable
    exact hsimilar.sameVerdicts override

/-- A script with nested unions, and with a test whose target stands for nothing. -/
def written : Script where
  declarations := [⟨"x", .union [.named "int", .union [.named "a", .named "b"]]⟩]
  checks :=
    [.test { symbol? := some "x" } (.union [.named "b", .named "a"])
      [.assign "x" (.named "a"), .access { symbol? := some "x" } "f"],
    .test { type? := some (.named "a") } (.union []) []]

/-- The same script with members reordered and repeated. -/
def rewritten : Script where
  declarations :=
    [⟨"x", .union [.union [.named "b", .named "a", .named "b"], .named "int", .named "int"]⟩]
  checks :=
    [.test { symbol? := some "x" } (.union [.named "a", .named "a", .named "b"])
      [.assign "x" (.named "a"), .access { symbol? := some "x" } "f"],
    .test { type? := some (.named "a") } (.union []) []]

/-- The two scripts differ in the order and the repetition of members only, so they have the same
verdicts under both settings. -/
theorem written_sameVerdicts_rewritten :
    written.Matching (Rearrangeable TypeRef.union) rewritten ∧
      written.SameVerdicts rewritten (some { unionEquality := .byName }) ∧
      written.Matching TypeRef.Similar rewritten ∧
      written.SameVerdicts rewritten (some { unionEquality := .structural }) := by
  have hpair : Rearranged TypeRef.union
      (.union ([.named "int"] ++ .union [.named "a", .named "b"] :: []))
      (.union ([.named "int"] ++ .union [.named "b", .named "a", .named "b"] :: [])) :=
    .inside (.again (by simp))
  have hrepeated : Rearranged TypeRef.union
      (.union [.named "int", .union [.named "b", .named "a", .named "b"]])
      (.union [.named "int", .named "int", .union [.named "b", .named "a", .named "b"]]) :=
    .again (List.mem_cons_self ..)
  have hmoved : Rearranged TypeRef.union
      (.union [.named "int", .named "int", .union [.named "b", .named "a", .named "b"]])
      (.union [.union [.named "b", .named "a", .named "b"], .named "int", .named "int"]) :=
    .reorder (List.perm_append_singleton _ [TypeRef.named "int", TypeRef.named "int"])
  have hdeclared : Rearrangeable TypeRef.union
      (.union [.named "int", .union [.named "a", .named "b"]])
      (.union [.union [.named "b", .named "a", .named "b"], .named "int", .named "int"]) :=
    .trans _ _ _ (.rel _ _ hpair) (.trans _ _ _ (.rel _ _ hrepeated) (.rel _ _ hmoved))
  have htarget : Rearrangeable TypeRef.union (.union [.named "b", .named "a"])
      (.union [.named "a", .named "a", .named "b"]) :=
    .trans _ _ _ (.rel _ _ (.reorder (.swap _ _ _))) (.rel _ _ (.again (List.mem_cons_self ..)))
  have hrearranged : written.Matching (Rearrangeable TypeRef.union) rewritten :=
    { config := rfl
      fields := rfl
      declarations := .cons ⟨rfl, hdeclared⟩ .nil
      checks :=
        .cons (.test ⟨rfl, .none⟩ htarget)
          (.cons (.assign (.refl _)) .nil (.cons (.access ⟨rfl, .none⟩) .nil .nil))
          (.cons (.test ⟨rfl, .some (.refl _)⟩ (.refl _)) .nil .nil) }
  have hsimilar : written.Matching TypeRef.Similar rewritten :=
    { config := rfl
      fields := rfl
      declarations := .cons ⟨rfl, rfl⟩ .nil
      checks :=
        .cons (.test ⟨rfl, .none⟩ rfl)
          (.cons (.assign rfl) .nil (.cons (.access ⟨rfl, .none⟩) .nil .nil))
          (.cons (.test ⟨rfl, .some rfl⟩ trivial) .nil .nil) }
  exact ⟨hrearranged, verdicts_of_similar_references.2 written rewritten _ hrearranged,
    hsimilar, verdicts_of_similar_references.1 written rewritten _ hsimilar⟩

end Script

end Narrowing
