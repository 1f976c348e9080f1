import Narrowing.Proofs.Run.Nodes
import Narrowing.Proofs.Run.Settings
import Narrowing.Proofs.Ty.Reference

/-!
# Scripts of plain types

The settings agree on every comparison that starts from a plain type. If the symbols of a script
and the expressions that it tests have plain types, all comparisons do: a plain type admits plain
types only, so no test narrows a symbol to anything else, whatever its target. Then the settings
agree on all verdicts, and on the reports to the letter.
-/

namespace Narrowing

/-- A reference that stands for no type but a plain one. -/
def TypeRef.Plain (reference : TypeRef) : Prop :=
  ∀ type, reference.resolve = .ok type → type.Plain

/-- A test of an expression, if the check is one, is about a plain type. -/
def Check.TestsPlain (check : Check) : Prop :=
  ∀ reference target guarded,
    check = .test { symbol? := none, type? := some reference } target guarded → reference.Plain

/-- A script that declares symbols of plain types and tests expressions of plain types. Targets,
values and the subjects of accesses may be of any types. -/
structure Script.Plain (script : Script) : Prop where
  /-- The declared types are plain. -/
  declarations : ∀ declaration ∈ script.declarations, declaration.type.Plain
  /-- The types of tested expressions are plain, at any depth. -/
  checks : ∀ node ∈ Check.nodes [] 0 script.checks, node.check.TestsPlain

/-- All symbols have plain types. -/
def Context.Plain (context : Context) : Prop :=
  ∀ name symbol, context.symbols.resolve name = .ok symbol → symbol.type.Plain

/-- All narrowings are to plain types. -/
def Scope.Plain (scope : Scope) : Prop := ∀ name type, scope name = some type → type.Plain

namespace TypeRef

/-- A name is plain unless it is that of unions. -/
theorem plain_named {name : String} (hname : name ≠ Ty.unionName) : (named name).Plain := by
  intro type htype
  rw [resolve_named] at htype
  cases htype
  exact hname

/-- A union of such names is plain. -/
theorem plain_union {members : List TypeRef}
    (hmembers : ∀ member ∈ members, ∃ name, member = .named name ∧ name ≠ Ty.unionName) :
    (union members).Plain := by
  intro type htype
  obtain ⟨types, -, rfl, htypes⟩ := resolve_union_eq_ok_iff.mp htype
  have hplain : ∀ type ∈ types, ∃ name, type = .nominal name ∧ name ≠ Ty.unionName := by
    clear htype
    induction htypes with
    | nil => simp
    | cons hfirst _ ih =>
      obtain ⟨⟨name, rfl, hname⟩, hrest⟩ := List.forall_mem_cons.mp hmembers
      rw [resolve_named] at hfirst
      cases hfirst
      exact List.forall_mem_cons.mpr ⟨⟨name, rfl, hname⟩, ih hrest⟩
  exact hplain

end TypeRef

namespace Context

variable {context : Context} {scope : Scope}

/-- The current type of a symbol is plain, narrowed or not. -/
theorem plain_of_currentType (hcontext : context.Plain) (hscope : scope.Plain) {name : String}
    {type : Ty} (htype : context.currentType scope name = .ok type) : type.Plain := by
  rcases currentType_eq_ok_iff.mp htype with hnarrowed | ⟨_, symbol, hsymbol, rfl⟩
  · exact hscope name type hnarrowed
  · exact hcontext name symbol hsymbol

/-- What a test is about has a plain type. -/
theorem plain_of_subjectType (hcontext : context.Plain) (hscope : scope.Plain) {subject : Subject}
    {target : TypeRef} {guarded : List Check}
    (hcheck : (Check.test subject target guarded).TestsPlain) {type : Ty}
    (htype : context.subjectType scope subject = .ok type) : type.Plain := by
  obtain ⟨symbol?, type?⟩ := subject
  cases symbol? with
  | some name => exact plain_of_currentType hcontext hscope (currentType_of_subjectType rfl htype)
  | none =>
    cases type? with
    | some reference => exact hcheck reference target guarded rfl type htype
    | none => simp [subjectType] at htype

/-- A check has the same verdict under both settings, down to the message, if all that it can be
about is plain. -/
theorem judge_eq_of_plain (hcontext : context.Plain) (hscope : scope.Plain) {check : Check}
    (hcheck : check.TestsPlain) :
    (context.under .byName).judge scope check = (context.under .structural).judge scope check := by
  cases check with
  | assign name value =>
    refine bind_congr_ok fun type _ => bind_congr_ok fun symbol hsymbol => ?_
    have hverdict := context.checker.checkAssignment_eq_of_plain (hcontext name symbol hsymbol) type
    simp only [under, hverdict]
  | test subject target guarded =>
    refine bind_congr_ok fun type htype => bind_congr_ok fun target _ => ?_
    have hsubject : type.Plain := plain_of_subjectType hcontext hscope hcheck htype
    have hverdict := context.checker.checkTest_eq_of_plain hsubject target
    simp only [under, hverdict]
  | access subject field => rfl

/-- An accepted check narrows its symbol, if it does, to a plain type. -/
theorem plain_narrow (hcontext : context.Plain) (hscope : scope.Plain) {check : Check}
    {narrowing : Option (String × Ty)}
    (hjudge : (context.under .structural).judge scope check = .ok narrowing) :
    (scope.narrow narrowing).Plain := by
  refine Scope.forall_narrow hscope ?_
  rintro name type rfl
  obtain ⟨current, hcurrent, hadmits⟩ := admits_of_judge hjudge
  exact Checker.plain_of_admits (plain_of_currentType hcontext hscope hcurrent) hadmits

/-- Forests in which only plain types are tested have the same diagnostics under both settings. Both
enter the same guarded checks, in scopes that remain plain. -/
theorem diagnose_eq_of_plain (hcontext : context.Plain) (hscope : scope.Plain) {parent : List Nat}
    {index : Nat} {checks : List Check}
    (hchecks : ∀ node ∈ Check.nodes parent index checks, node.check.TestsPlain) :
    (context.under .byName).diagnose scope checks =
      (context.under .structural).diagnose scope checks := by
  induction checks using Check.forest_induction generalizing scope parent index with
  | nil => simp
  | cons check rest ihGuarded ihRest =>
    rw [Check.nodes_cons, List.forall_mem_cons, List.forall_mem_append] at hchecks
    obtain ⟨hcheck, hguarded, hrest⟩ := hchecks
    rw [diagnose_cons, diagnose_cons, judge_eq_of_plain hcontext hscope hcheck,
      ihRest hscope hrest]
    cases hjudge : (context.under .structural).judge scope check with
    | error failure => rfl
    | ok narrowing =>
      simp only [ihGuarded (plain_narrow hcontext hscope hjudge) hguarded]

end Context

namespace Script

/-- The symbols of a plain script have plain types. -/
theorem Plain.context_ready {script : Script} (h : script.Plain) (override : Option Config) :
    (script.ready override).context.Plain := by
  intro name symbol hsymbol
  have hmem : symbol ∈ (script.ready override).symbols.toList :=
    List.mem_of_find?_eq_some (SymbolTable.resolve_eq_ok_iff.mp hsymbol)
  rcases Runner.mem_symbols_foldl_declare hmem with hstart | ⟨declaration, hdeclaration, _, htype⟩
  · cases hstart
  · exact h.declarations declaration hdeclaration symbol.type htype

/-- A script of plain types has the same report under both settings. -/
theorem report_eq_of_plain (script : Script) (h : script.Plain) :
    (script.run (some { unionEquality := .byName })).report =
      (script.run (some { unionEquality := .structural })).report := by
  have hscope : (script.ready none).scope.Plain := by
    intro name type htype
    rw [scope_ready] at htype
    cases htype
  have hdiagnose := Context.diagnose_eq_of_plain (h.context_ready none) hscope h.checks
  simp only [run_eq, Runner.report_runChecks]
  rw [context_ready, context_ready, (ready_congr script _ none).2, scope_ready_congr script _ none,
    hdiagnose, (ready_congr script (some { unionEquality := .structural }) none).2,
    scope_ready_congr script (some { unionEquality := .structural }) none]

/-- A script that declares and tests plain types only, and meets unions and the name of unions
everywhere else. -/
def tame : Script where
  declarations :=
    [⟨"x", .union [.named "int", .named "Point"]⟩, ⟨"y", .named "string"⟩, ⟨"z", .union []⟩]
  checks :=
    [.test { symbol? := some "x" } (.union [.named "int", .named "Point"]) [],
    .test { symbol? := some "x" } (.named "union") [.access { symbol? := some "x" } "f"],
    .test { symbol? := some "x" } (.named "Point")
      [.access { symbol? := some "x" } "x", .assign "x" (.union [.union [.named "int"]]),
      .test { symbol? := some "x" } (.union [.named "Point"]) []],
    .test { type? := some (.union [.named "a", .named "b"]) } (.named "b")
      [.access { type? := some (.union [.named "union"]) } "f"],
    .assign "y" (.named "union")]

/-- The script fares the same under both settings, with one declaration and six checks rejected. -/
theorem tame_report_eq :
    tame.Plain ∧
      (tame.run (some { unionEquality := .byName })).report =
        (tame.run (some { unionEquality := .structural })).report ∧
      (tame.run (some { unionEquality := .byName })).report.errorCount = 7 := by
  have hunion : ∀ first second, first ≠ Ty.unionName → second ≠ Ty.unionName →
      (TypeRef.union [.named first, .named second]).Plain := by
    intro first second hfirst hsecond
    apply TypeRef.plain_union
    simp [hfirst, hsecond]
  have hplain : tame.Plain := by
    constructor
    · simp only [tame, List.forall_mem_cons]
      exact ⟨hunion _ _ (by decide) (by decide), TypeRef.plain_named (by decide),
        TypeRef.plain_union (by simp), by simp⟩
    · have hab := hunion "a" "b" (by decide) (by decide)
      simpa [tame, Check.nodes_cons, Check.guarded, Check.TestsPlain] using hab
  exact ⟨hplain, report_eq_of_plain tame hplain, by decide⟩

end Script

end Narrowing
