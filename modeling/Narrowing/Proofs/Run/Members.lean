import Narrowing.Proofs.Run.Declarations
import Narrowing.Proofs.Ty.Membership

/-!
# Narrowing stays inside the declared type

In structural mode a chain of tests on a symbol leads deeper and deeper into its declared type: the
type that it has at any moment is, up to structure, the declared type, a member of it, a member of a
member, and so on. Nominal types are known by their names, so what a field is read from stands by
its very name in the declared type.
-/

namespace Narrowing

/-- A type that equals, by structure, something within another type. -/
def Ty.FoundIn (type declared : Ty) : Prop :=
  ∃ part : Ty, part.Within declared ∧ type.eqStructure part = true

/-- What a type found in a declared type admits is found there too. A nominal type admits nothing
but itself; a union admits its members up to structure, and equal unions have equal members. -/
theorem Checker.foundIn_of_admits {checker : Checker} {type narrowed declared : Ty}
    (hmode : checker.config.unionEquality = .structural) (htype : type.FoundIn declared)
    (hadmits : checker.admits type narrowed = true) : narrowed.FoundIn declared := by
  obtain ⟨part, hwithin, hpart⟩ := htype
  cases type with
  | nominal name =>
    have heq : (Ty.nominal name).eqStructure narrowed = true := by
      simpa [admits, typesEqual, UnionEquality.typesEqual, hmode] using hadmits
    rw [Ty.eqStructure_comm] at heq
    exact ⟨part, hwithin, Ty.eqStructure_trans heq hpart⟩
  | union members =>
    obtain ⟨member, hmember, heq⟩ : ∃ member ∈ members, member.eqStructure narrowed = true := by
      simpa [admits, contains, typesEqual, UnionEquality.typesEqual, hmode] using hadmits
    obtain ⟨member', hmember', heq'⟩ := Ty.exists_member_of_eqStructure hpart hmember
    rw [Ty.eqStructure_comm] at heq
    exact ⟨member', Relation.ReflTransGen.head hmember' hwithin, Ty.eqStructure_trans heq heq'⟩

/-- The invariant of structural mode: what a symbol is narrowed to is found in its declared type. -/
def Scope.InDeclared (context : Context) (scope : Scope) : Prop :=
  ∀ name type, scope name = some type →
    ∃ symbol, context.symbols.resolve name = .ok symbol ∧ type.FoundIn symbol.type

/-- Under the invariant, the current type of a symbol is found in its declared type, narrowed or
not. -/
theorem Context.currentType_foundIn {context : Context} {scope : Scope} {name : String} {type : Ty}
    (hscope : scope.InDeclared context) (htype : context.currentType scope name = .ok type) :
    ∃ symbol, context.symbols.resolve name = .ok symbol ∧ type.FoundIn symbol.type := by
  unfold currentType at htype
  cases hnarrowed : scope name with
  | some narrowed =>
    have heq : narrowed = type := by simpa [hnarrowed] using htype
    rw [← heq]
    exact hscope name narrowed hnarrowed
  | none =>
    simp only [hnarrowed, bind_eq_ok_iff, pure_eq_ok_iff] at htype
    obtain ⟨symbol, hsymbol, rfl⟩ := htype
    exact ⟨symbol, hsymbol, symbol.type, Relation.ReflTransGen.refl, Ty.eqStructure_refl _⟩

/-- Accepted checks keep the invariant: a test narrows its symbol to something that the current type
admits. -/
theorem Scope.InDeclared.narrow {context : Context} {scope : Scope} {check : Check}
    {narrowing : Option (String × Ty)} (hmode : context.checker.config.unionEquality = .structural)
    (hscope : scope.InDeclared context) (hjudge : context.judge scope check = .ok narrowing) :
    (scope.narrow narrowing).InDeclared context := by
  cases narrowing with
  | none => exact hscope
  | some entry =>
    obtain ⟨name, narrowed⟩ := entry
    have hnarrowed : ∃ symbol, context.symbols.resolve name = .ok symbol ∧
        narrowed.FoundIn symbol.type := by
      cases check with
      | assign symbol value => simp [Context.judge_assign_eq_ok_iff] at hjudge
      | access subject field => simp [Context.judge_access_eq_ok_iff] at hjudge
      | test subject target guarded =>
        obtain ⟨type, narrowed', hsubject, _, hadmits, hentry⟩ :=
          Context.judge_test_eq_ok_iff.mp hjudge
        obtain ⟨name', hname', hpair⟩ := Option.map_eq_some_iff.mp hentry.symm
        obtain ⟨rfl, rfl⟩ := Prod.mk.inj hpair
        have hcurrent := Context.currentType_of_subjectType hname' hsubject
        obtain ⟨symbol, hsymbol, hfound⟩ := Context.currentType_foundIn hscope hcurrent
        exact ⟨symbol, hsymbol, Checker.foundIn_of_admits hmode hfound hadmits⟩
    intro other type hother
    by_cases heq : other = name
    · have htype : narrowed = type := by simpa [Scope.narrow, heq] using hother
      rw [heq, ← htype]
      exact hnarrowed
    · exact hscope other type (by simpa [Scope.narrow, heq] using hother)

/-- What a nominal type is found in has that nominal type in it. -/
theorem Ty.within_of_foundIn {name : String} {declared : Ty}
    (h : (Ty.nominal name).FoundIn declared) : (Ty.nominal name).Within declared := by
  obtain ⟨part, hwithin, heq⟩ := h
  rw [Ty.eq_nominal_of_eqStructure heq] at hwithin
  exact hwithin

namespace Script

/-- The invariant of structural mode holds at every step of a script: it holds trivially before the
first check, and accepted checks keep it. -/
theorem inDeclared_of_mem_steps {script : Script} {override : Option Config}
    (hmode : (override.getD script.config).unionEquality = .structural) {step : Step}
    (hstep : step ∈ script.steps override) :
    step.runner.scope.InDeclared (script.ready override).context := by
  have hvisit : step.visit ∈ (script.ready override).context.visits
      (script.ready override).scope [] 0 script.checks := by
    rw [← (Runner.steps_visits (script.ready override) [] 0 script.checks).1]
    exact List.mem_map_of_mem hstep
  have hmode' : (script.ready override).context.checker.config.unionEquality = .structural := by
    change (script.ready override).checker.config.unionEquality = .structural
    rw [checker_ready]
    exact hmode
  refine Context.scope_of_mem_visits
    (motive := fun scope => scope.InDeclared (script.ready override).context) ?_ ?_ hvisit
  · intro scope check narrowing hscope hjudge
    exact hscope.narrow hmode' hjudge
  · intro name type htype
    rw [scope_ready] at htype
    cases htype

/-- In structural mode, whenever a script makes a check, the current type of every symbol is found
in the type that the script declares it with. A field that a symbol is accepted to be read for is a
field of a nominal type that stands in the declared type under its own name. -/
theorem currentType_foundIn_declared (script : Script) (override : Option Config)
    (hmode : (override.getD script.config).unionEquality = .structural) :
    ∀ step ∈ script.steps override,
      (∀ name type, step.runner.currentType name = .ok type →
        ∃ symbol, (script.run override).symbols.resolve name = .ok symbol ∧
          type.FoundIn symbol.type) ∧
      ∀ name subject field, step.check = .access subject field → subject.symbol? = some name →
        step.accepted = true →
          ∃ symbol typeName, (script.run override).symbols.resolve name = .ok symbol ∧
            step.runner.currentType name = .ok (.nominal typeName) ∧
            (Ty.nominal typeName).Within symbol.type ∧
            script.schema.hasField typeName field = true := by
  intro step hstep
  have hcontext : step.runner.context = (script.ready override).context :=
    (Runner.steps_visits (script.ready override) [] 0 script.checks).2 step hstep
  have hcurrent : ∀ name type, step.runner.currentType name = .ok type →
      ∃ symbol, (script.run override).symbols.resolve name = .ok symbol ∧
        type.FoundIn symbol.type := by
    intro name type htype
    have htype' : step.runner.context.currentType step.runner.scope name = .ok type := htype
    rw [hcontext] at htype'
    rw [symbols_run]
    exact Context.currentType_foundIn (inDeclared_of_mem_steps hmode hstep) htype'
  refine ⟨hcurrent, fun name subject field hcheck hname haccepted => ?_⟩
  rw [Step.accepted, Runner.judge_eq, hcheck] at haccepted
  cases hjudge : step.runner.context.judge step.runner.scope (.access subject field) with
  | error failure =>
    rw [hjudge] at haccepted
    cases haccepted
  | ok narrowing =>
    obtain ⟨_, typeName, hsubject, hfield⟩ := Context.judge_access_eq_ok_iff.mp hjudge
    have htype : step.runner.currentType name = .ok (.nominal typeName) :=
      Context.currentType_of_subjectType hname hsubject
    obtain ⟨symbol, hsymbol, hfound⟩ := hcurrent name (.nominal typeName) htype
    refine ⟨symbol, typeName, hsymbol, htype, Ty.within_of_foundIn hfound, ?_⟩
    have hschema : step.runner.checker.schema = script.schema := by
      have hchecker : step.runner.checker = (script.ready override).checker :=
        congrArg Context.checker hcontext
      rw [hchecker, checker_ready]
    rw [← hschema]
    exact hfield

/-- A script whose tests lead into a nested union, written in another order than it is declared. -/
def drifting : Script where
  config := { unionEquality := .structural }
  fields? := some (FieldTable.empty.register "a" ["f"])
  declarations := [⟨"x", .union [.named "int", .union [.named "a", .named "b"]]⟩]
  checks :=
    [.test { symbol? := some "x" } (.union [.named "b", .named "a", .named "b"])
      [.test { symbol? := some "x" } (.named "a") [.access { symbol? := some "x" } "f"]]]

/-- The second test of the script starts from a union that the declared type does not list, but
lists up to structure; the access inside it reads a field of a member of a member. -/
theorem drifting_currentType_foundIn :
    drifting.config.unionEquality = .structural ∧
      (drifting.steps none).map (fun step => (step.position, step.accepted)) =
        [([0], true), ([0, 0], true), ([0, 0, 0], true)] ∧
      (∃ step ∈ drifting.steps none, step.position = [0, 0] ∧
        ∃ symbol, (drifting.run none).symbols.resolve "x" = .ok symbol ∧
          (Ty.union [.nominal "b", .nominal "a", .nominal "b"]).FoundIn symbol.type) ∧
      ∃ step ∈ drifting.steps none, step.position = [0, 0, 0] ∧
        ∃ symbol typeName, (drifting.run none).symbols.resolve "x" = .ok symbol ∧
          step.runner.currentType "x" = .ok (.nominal typeName) ∧
          (Ty.nominal typeName).Within symbol.type ∧
          drifting.schema.hasField typeName "f" = true := by
  have hsecond : 1 < (drifting.steps none).length := by decide
  have hthird : 2 < (drifting.steps none).length := by decide
  refine ⟨rfl, rfl, ⟨(drifting.steps none)[1], List.getElem_mem hsecond, rfl, ?_⟩,
    (drifting.steps none)[2], List.getElem_mem hthird, rfl, ?_⟩
  · exact (currentType_foundIn_declared drifting none rfl _ (List.getElem_mem hsecond)).1 "x" _ rfl
  · exact (currentType_foundIn_declared drifting none rfl _ (List.getElem_mem hthird)).2 "x"
      { symbol? := some "x" } "f" rfl rfl rfl

end Script

end Narrowing
