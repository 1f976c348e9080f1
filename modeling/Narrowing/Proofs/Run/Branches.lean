import Narrowing.Proofs.Run.Declarations
import Narrowing.Proofs.Run.Nodes

/-!
# Inside a branch

An accepted test narrows its symbol for the checks that it guards. Tests of the symbol and accesses
to it are judged by the narrowed type there, unless a further test has narrowed it again.
Assignments are not: they go by the declared type. So a branch may assign to its symbol what the
narrowed type does not admit, and go on to read the fields of the narrowed type.
-/

namespace Narrowing

namespace Check

/-- The check is a test of the symbol, which narrows it if it is accepted. -/
def Narrows (check : Check) (name : String) : Prop :=
  ∃ subject target guarded, check = .test subject target guarded ∧ subject.symbol? = some name

/-- The check is about the symbol: it assigns to it, or has it for its subject. -/
def IsAbout (name : String) : Check → Prop
  | .assign symbol _ => symbol = name
  | .test subject _ _ => subject = { symbol? := some name }
  | .access subject _ => subject = { symbol? := some name }

/-- The type that a check about a symbol goes by, where the symbol is declared with the first type
and narrowed to the second. -/
def typeToGoBy (declared narrowed : Ty) : Check → Ty
  | .assign .. => declared
  | .test .. => narrowed
  | .access .. => narrowed

end Check

/-- The verdict on a check about a symbol, if the symbol has the given type. -/
def Checker.verdictOn (checker : Checker) (type : Ty) : Check → Except Failure Unit
  | .assign name value => do
    let value ← value.resolve
    (checker.checkAssignment ⟨name, type⟩ value).mapError RuleError.toFailure
  | .test _ target _ => do
    let target ← target.resolve
    let _ ← (checker.checkTest type target).mapError RuleError.toFailure
  | .access _ field => (checker.checkAccess type field).mapError RuleError.toFailure

/-- The verdict on the check of a step, without the narrowing that comes of it. -/
def Step.verdict (step : Step) : Except Failure Unit := do
  let _ ← step.runner.judge step.check

/-- The step is made in the branch of an accepted test that has narrowed the symbol to the type, and
no test in between has narrowed it again. -/
def Script.InBranch (script : Script) (override : Option Config) (name : String) (type : Ty)
    (inner : Step) : Prop :=
  ∃ outer ∈ script.steps override, outer.accepted = true ∧ outer.node.Guards inner.node ∧
    (∃ target guarded, outer.check = .test { symbol? := some name } target guarded ∧
      target.resolve = .ok type) ∧
    ∀ between ∈ script.steps override, outer.node.Guards between.node →
      between.node.Guards inner.node → ¬ between.check.Narrows name

/-- In every branch, all checks about the narrowed symbol are judged by the type that it is narrowed
to. -/
def Script.JudgesByNarrowedTypes (script : Script) (override : Option Config) : Prop :=
  ∀ step ∈ script.steps override, ∀ name type, script.InBranch override name type step →
    step.check.IsAbout name → step.verdict = step.runner.checker.verdictOn type step.check

namespace Context

variable {context : Context} {scope : Scope} {parent : List Nat} {index : Nat}
  {checks : List Check}

/-- A check that is no test of a symbol leaves the type of the symbol as it is. -/
theorem narrow_apply_of_not_narrows {check : Check} {narrowing : Option (String × Ty)}
    {name : String} (hjudge : context.judge scope check = .ok narrowing)
    (hcheck : ¬ check.Narrows name) : scope.narrow narrowing name = scope name := by
  cases check with
  | assign symbol value =>
    rw [(judge_assign_eq_ok_iff.mp hjudge).1]
    rfl
  | access subject field =>
    rw [(judge_access_eq_ok_iff.mp hjudge).1]
    rfl
  | test subject target guarded =>
    obtain ⟨_, narrowed, _, _, _, rfl⟩ := judge_test_eq_ok_iff.mp hjudge
    cases hsymbol : subject.symbol? with
    | none => rfl
    | some other =>
      have hne : name ≠ other := by
        rintro rfl
        exact hcheck ⟨subject, target, guarded, rfl, hsymbol⟩
      simp [Scope.narrow, hne]

/-- A symbol has its outer type wherever no test on the way has narrowed it. -/
theorem scope_apply_of_not_narrows {name : String} {inner : Visit}
    (hinner : inner ∈ context.visits scope parent index checks)
    (hbetween : ∀ between ∈ context.visits scope parent index checks,
      between.node.Guards inner.node → ¬ between.check.Narrows name) :
    inner.scope name = scope name := by
  induction checks using Check.forest_induction generalizing scope parent index with
  | nil => simp at hinner
  | cons check rest ihGuarded ihRest =>
    rw [visits_cons, List.mem_cons, List.mem_append] at hinner
    rw [visits_cons, List.forall_mem_cons, List.forall_mem_append] at hbetween
    obtain ⟨hfirst, hinside, hrest⟩ := hbetween
    rcases hinner with rfl | hinner | hinner
    · rfl
    · have hguards : Node.Guards ⟨parent ++ [index], check⟩ inner.node := by
        obtain ⟨next, further, hposition⟩ := position_of_mem_visitsInside hinner
        exact ⟨next, further, by simpa using hposition⟩
      obtain ⟨narrowing, hjudge, hmem⟩ := mem_visitsInside_iff.mp hinner
      rw [← narrow_apply_of_not_narrows hjudge (hfirst hguards)]
      apply ihGuarded hmem
      intro between hbetween
      exact hinside between (mem_visitsInside_iff.mpr ⟨narrowing, hjudge, hbetween⟩)
    · exact ihRest hinner hrest

/-- Inside the branch of a test, the symbol of the test has the type that was tested for, unless it
has been narrowed again. -/
theorem scope_apply_in_branch {name : String} {target : TypeRef} {guarded : List Check} {type : Ty}
    {outer inner : Visit} (houter : outer ∈ context.visits scope parent index checks)
    (hinner : inner ∈ context.visits scope parent index checks)
    (hguards : outer.node.Guards inner.node)
    (htest : outer.check = .test { symbol? := some name } target guarded)
    (htarget : target.resolve = .ok type)
    (hbetween : ∀ between ∈ context.visits scope parent index checks,
      outer.node.Guards between.node → between.node.Guards inner.node →
        ¬ between.check.Narrows name) :
    inner.scope name = some type := by
  obtain ⟨narrowing, hjudge, hinside⟩ := mem_visits_of_guards houter hinner hguards
  have hscope : inner.scope name = outer.scope.narrow narrowing name := by
    apply scope_apply_of_not_narrows hinside
    intro between hmem hbelow
    obtain ⟨next, further, _, hposition⟩ := position_of_mem_visits hmem
    exact hbetween between (visits_inside_subset houter hjudge hmem) ⟨next, further, hposition⟩
      hbelow
  rw [htest] at hjudge
  obtain ⟨_, narrowed, _, hnarrowed, _, rfl⟩ := judge_test_eq_ok_iff.mp hjudge
  obtain rfl : type = narrowed := by simpa [htarget] using hnarrowed
  rw [hscope]
  simp [Scope.narrow]

/-- Only declared symbols are ever narrowed: the first test of a symbol finds its declared type. -/
theorem exists_symbol_of_scope (hscope : ∀ name, scope name = none) {visit : Visit}
    (hvisit : visit ∈ context.visits scope parent index checks) {name : String} {type : Ty}
    (htype : visit.scope name = some type) :
    ∃ symbol, context.symbols.resolve name = .ok symbol := by
  refine scope_of_mem_visits (motive := fun scope => ∀ name type, scope name = some type →
    ∃ symbol, context.symbols.resolve name = .ok symbol) ?_ ?_ hvisit name type htype
  · intro scope check narrowing hdeclared hjudge
    refine Scope.forall_narrow hdeclared ?_
    rintro name type rfl
    obtain ⟨current, hcurrent, _⟩ := admits_of_judge hjudge
    rcases currentType_eq_ok_iff.mp hcurrent with hnarrowed | ⟨_, symbol, hsymbol, _⟩
    · exact hdeclared name current hnarrowed
    · exact ⟨symbol, hsymbol⟩
  · intro name type htype
    rw [hscope] at htype
    cases htype

/-- A check about a narrowed symbol is judged by the narrowed type, unless it is an assignment. -/
theorem judge_eq_verdictOn {check : Check} {name : String} {type : Ty} {symbol : Symbol}
    (hcheck : check.IsAbout name) (hscope : scope name = some type)
    (hsymbol : context.symbols.resolve name = .ok symbol) :
    (do let _ ← context.judge scope check) =
      context.checker.verdictOn (check.typeToGoBy symbol.type type) check := by
  have hsubject : context.subjectType scope { symbol? := some name } = .ok type := by
    simp [subjectType, currentType, hscope]
  cases check with
  | assign symbol' value =>
    obtain rfl : symbol' = name := hcheck
    have hname : symbol.name = symbol' :=
      SymbolTable.name_of_find? (SymbolTable.resolve_eq_ok_iff.mp hsymbol)
    have hself : (⟨symbol', symbol.type⟩ : Symbol) = symbol := by rw [← hname]
    simp only [judge, Checker.verdictOn, Check.typeToGoBy, hsymbol, ok_bind, bind_assoc, pure_bind,
      bind_pure_unit, hself]
  | test subject target guarded =>
    obtain rfl : subject = { symbol? := some name } := hcheck
    simp only [judge, Checker.verdictOn, Check.typeToGoBy, hsubject, ok_bind, bind_assoc, pure_bind]
  | access subject field =>
    obtain rfl : subject = { symbol? := some name } := hcheck
    simp only [judge, Checker.verdictOn, Check.typeToGoBy, hsubject, ok_bind, bind_assoc, pure_bind,
      bind_pure_unit]

end Context

namespace Script

variable {script : Script} {override : Option Config}

/-- The steps of a script go through the visits of its checks. -/
theorem visit_mem_visits {step : Step} (hstep : step ∈ script.steps override) :
    step.visit ∈ (script.ready override).context.visits (script.ready override).scope [] 0
      script.checks := by
  rw [← (Runner.steps_visits (script.ready override) [] 0 script.checks).1]
  exact List.mem_map_of_mem hstep

/-- Inside a branch the narrowed symbol has the type of the branch. -/
theorem InBranch.scope_apply {name : String} {type : Ty} {step : Step}
    (h : script.InBranch override name type step) (hstep : step ∈ script.steps override) :
    step.runner.scope name = some type := by
  obtain ⟨outer, houter, _, hguards, ⟨target, guarded, htest, htarget⟩, hbetween⟩ := h
  refine Context.scope_apply_in_branch (visit_mem_visits houter) (visit_mem_visits hstep) hguards
    htest htarget ?_
  intro visit hvisit habove hbelow
  rw [← (Runner.steps_visits (script.ready override) [] 0 script.checks).1] at hvisit
  obtain ⟨between, hmem, rfl⟩ := List.mem_map.mp hvisit
  exact hbetween between hmem habove hbelow

/-- In a branch, the check of a step about the narrowed symbol is judged by the type of the branch,
or by the declared type if it is an assignment. -/
theorem InBranch.verdict_eq {name : String} {type : Ty} {step : Step}
    (h : script.InBranch override name type step) (hstep : step ∈ script.steps override)
    (hcheck : step.check.IsAbout name) :
    ∃ symbol, (script.run override).symbols.resolve name = .ok symbol ∧
      step.verdict = step.runner.checker.verdictOn (step.check.typeToGoBy symbol.type type)
        step.check := by
  have hcontext : step.runner.context = (script.ready override).context :=
    (Runner.steps_visits (script.ready override) [] 0 script.checks).2 step hstep
  have hscope := h.scope_apply hstep
  obtain ⟨symbol, hsymbol⟩ := Context.exists_symbol_of_scope (fun name => scope_ready script _ name)
    (visit_mem_visits hstep) hscope
  rw [← hcontext] at hsymbol
  have hsymbols : (script.run override).symbols = step.runner.symbols := by
    rw [symbols_run]
    exact (congrArg Context.symbols hcontext).symm
  refine ⟨symbol, by rw [hsymbols]; exact hsymbol, ?_⟩
  rw [Step.verdict, Runner.judge_eq]
  exact Context.judge_eq_verdictOn hcheck hscope hsymbol

/-- In a branch, tests of the narrowed symbol and accesses to it are judged by the type of the
branch, and assignments to it by its declared type. So a script judges by narrowed types throughout
exactly when each assignment in a branch has the same verdict for the declared type and for the type
of the branch. -/
theorem verdict_in_branch (script : Script) (override : Option Config) :
    (∀ step ∈ script.steps override, ∀ name type, script.InBranch override name type step →
      step.check.IsAbout name →
        ∃ symbol, (script.run override).symbols.resolve name = .ok symbol ∧
          step.verdict = step.runner.checker.verdictOn (step.check.typeToGoBy symbol.type type)
            step.check) ∧
    (script.JudgesByNarrowedTypes override ↔
      ∀ step ∈ script.steps override, ∀ name type value symbol,
        script.InBranch override name type step → step.check = .assign name value →
          (script.run override).symbols.resolve name = .ok symbol →
            step.runner.checker.verdictOn symbol.type step.check =
              step.runner.checker.verdictOn type step.check) := by
  refine ⟨fun step hstep name type hbranch hcheck => hbranch.verdict_eq hstep hcheck, ?_, ?_⟩
  · intro hjudges step hstep name type value symbol hbranch hassign hsymbol
    have hcheck : step.check.IsAbout name := by rw [hassign]; rfl
    obtain ⟨symbol', hsymbol', hverdict⟩ := hbranch.verdict_eq hstep hcheck
    obtain rfl : symbol = symbol' := by simpa [hsymbol] using hsymbol'
    rw [hjudges step hstep name type hbranch hcheck] at hverdict
    rw [hverdict, hassign]
    rfl
  · intro hassignments step hstep name type hbranch hcheck
    obtain ⟨symbol, hsymbol, hverdict⟩ := hbranch.verdict_eq hstep hcheck
    rw [hverdict]
    cases hkind : step.check with
    | assign symbol' value =>
      obtain rfl : symbol' = name := by rw [hkind] at hcheck; exact hcheck
      have heq := hassignments step hstep symbol' type value symbol hbranch hkind hsymbol
      rw [hkind] at heq
      exact heq
    | test subject target guarded => rfl
    | access subject field => rfl

/-- A script that assigns an `int` where its symbol is narrowed to `Point`, and then reads a
field. -/
def stale : Script where
  declarations := [⟨"x", .union [.named "int", .named "Point"]⟩]
  checks :=
    [.test { symbol? := some "x" } (.named "Point")
      [.assign "x" (.named "int"), .access { symbol? := some "x" } "x"]]

/-- All steps of the script but the first are in the branch of the first. -/
theorem stale_inBranch {step : Step} {index : Nat} (hposition : step.position = [0, index]) :
    stale.InBranch none "x" (.nominal "Point") step := by
  have hlength : 0 < (stale.steps none).length := by decide
  refine ⟨(stale.steps none)[0], List.getElem_mem hlength, rfl, ⟨index, [], hposition⟩,
    ⟨_, _, rfl, rfl⟩, ?_⟩
  rintro between _ ⟨next, further, habove⟩ ⟨next', further', hbelow⟩
  have hfirst : (stale.steps none)[0].node.position = [0] := rfl
  have hstep : step.node.position = [0, index] := hposition
  rw [habove, hfirst, hstep] at hbelow
  have hlengths := congrArg List.length hbelow
  simp at hlengths

/-- The access is judged by the type of the branch, and the assignment before it by the declared
type. -/
theorem stale_verdicts :
    ∃ assignment ∈ stale.steps none, ∃ access ∈ stale.steps none,
      assignment.position = [0, 0] ∧ access.position = [0, 1] ∧
      assignment.verdict = assignment.runner.checker.verdictOn
        (.union [.nominal "int", .nominal "Point"]) assignment.check ∧
      access.verdict = access.runner.checker.verdictOn (.nominal "Point") access.check := by
  have hfirst : 1 < (stale.steps none).length := by decide
  have hsecond : 2 < (stale.steps none).length := by decide
  have hresolve : (stale.run none).symbols.resolve "x" =
      .ok ⟨"x", .union [.nominal "int", .nominal "Point"]⟩ := rfl
  obtain ⟨symbol, hsymbol, hassignment⟩ := (verdict_in_branch stale none).1 _
    (List.getElem_mem hfirst) "x" _ (stale_inBranch rfl) rfl
  obtain ⟨_, _, haccess⟩ := (verdict_in_branch stale none).1 _
    (List.getElem_mem hsecond) "x" _ (stale_inBranch rfl) rfl
  rw [hresolve] at hsymbol
  cases hsymbol
  exact ⟨_, List.getElem_mem hfirst, _, List.getElem_mem hsecond, rfl, rfl, hassignment, haccess⟩

/-- The script has no errors, although the type that the symbol is narrowed to does not admit the
value that is assigned to it before the field of that type is read. -/
theorem not_stale_judgesByNarrowedTypes :
    ¬ stale.JudgesByNarrowedTypes none ∧ (stale.run none).report = .empty ∧
      ∃ assignment ∈ stale.steps none, ∃ access ∈ stale.steps none,
        assignment.position = [0, 0] ∧ assignment.check = .assign "x" (.named "int") ∧
        access.position = [0, 1] ∧ access.check = .access { symbol? := some "x" } "x" ∧
        assignment.accepted = true ∧ access.accepted = true ∧
        stale.InBranch none "x" (.nominal "Point") assignment ∧
        stale.InBranch none "x" (.nominal "Point") access ∧
        assignment.runner.checker.admits (.nominal "Point") (.nominal "int") = false := by
  have hfirst : 1 < (stale.steps none).length := by decide
  have hsecond : 2 < (stale.steps none).length := by decide
  refine ⟨fun hjudges => ?_, by decide, (stale.steps none)[1], List.getElem_mem hfirst,
    (stale.steps none)[2], List.getElem_mem hsecond, rfl, rfl, rfl, rfl, rfl, rfl,
    stale_inBranch rfl, stale_inBranch rfl, rfl⟩
  have hverdict := hjudges _ (List.getElem_mem hfirst) "x" _ (stale_inBranch rfl) rfl
  cases hverdict

end Script

end Narrowing
