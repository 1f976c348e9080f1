import Narrowing.Proofs.Run.Steps
import Narrowing.Proofs.Symbols.Table

/-!
# What a forest of checks depends on

A check asks for the symbols that it names, and for each of them only for its declared type and its
innermost narrowing. Two runners that agree on these for all names in a forest report the same about
it, however else their tables and stacks differ. A test that both accept pushes the same narrowing
on both stacks, so they agree inside its branch again, whatever lies below.
-/

namespace Narrowing

namespace Check

/-- The symbols that a check names, apart from the checks that it guards. -/
def ownNames : Check → List String
  | .assign name _ => [name]
  | .test subject _ _ => subject.symbol?.toList
  | .access subject _ => subject.symbol?.toList

mutual

/-- The symbols that a check and the checks that it guards name, to any depth. -/
def namesFrom : Check → List String
  | .assign name _ => [name]
  | .test subject _ guarded => subject.symbol?.toList ++ names guarded
  | .access subject _ => subject.symbol?.toList

/-- The symbols that the checks of a forest name. -/
def names : List Check → List String
  | [] => []
  | check :: rest => namesFrom check ++ names rest

end

/-- The names of a forest are those of its first check, of the checks guarded by it, and of the
checks that follow. -/
theorem names_cons (check : Check) (rest : List Check) :
    names (check :: rest) = check.ownNames ++ (names check.guarded ++ names rest) := by
  cases check <;> simp [names, namesFrom, ownNames, guarded]

end Check

/-- A checker is known by its setting and by the fields that its schema has. -/
theorem Checker.eq_of_hasField {checker checker' : Checker}
    (hequality : checker.config.unionEquality = checker'.config.unionEquality)
    (hschema : ∀ typeName field,
      checker.schema.hasField typeName field = checker'.schema.hasField typeName field) :
    checker = checker' := by
  obtain ⟨⟨hasField⟩, ⟨equality⟩⟩ := checker
  obtain ⟨⟨hasField'⟩, ⟨equality'⟩⟩ := checker'
  obtain rfl : equality = equality' := hequality
  obtain rfl : hasField = hasField' := funext fun typeName => funext (hschema typeName)
  rfl

/-- The contexts and the scopes agree on the listed names: the rules are the same, a name leads to
the same symbol or to none, and it has the same narrowing or none. -/
structure Context.AgreesOn (names : List String) (context context' : Context)
    (scope scope' : Scope) : Prop where
  /-- The rules are the same. -/
  checker : context.checker = context'.checker
  /-- The names are declared alike. -/
  declared : ∀ name ∈ names, context.symbols.find? name = context'.symbols.find? name
  /-- The names are narrowed alike. -/
  narrowed : ∀ name ∈ names, scope name = scope' name

namespace Context.AgreesOn

variable {names names' : List String} {context context' : Context} {scope scope' : Scope}

/-- Who agrees on some names agrees on fewer of them. -/
theorem mono (h : AgreesOn names context context' scope scope') (hsubset : names' ⊆ names) :
    AgreesOn names' context context' scope scope' where
  checker := h.checker
  declared := fun name hname => h.declared name (hsubset hname)
  narrowed := fun name hname => h.narrowed name (hsubset hname)

/-- A narrowing that is put in force on both sides does no harm. -/
theorem narrow (h : AgreesOn names context context' scope scope')
    (narrowing : Option (String × Ty)) :
    AgreesOn names context context' (scope.narrow narrowing) (scope'.narrow narrowing) where
  checker := h.checker
  declared := h.declared
  narrowed := by
    intro name hname
    have houter := h.narrowed name hname
    cases narrowing with
    | none => exact houter
    | some entry =>
      obtain ⟨narrowed, type⟩ := entry
      by_cases heq : name = narrowed
      · simp [Scope.narrow, heq]
      · simpa [Scope.narrow, heq] using houter

/-- A name resolves alike in both contexts. -/
theorem resolve_eq (h : AgreesOn names context context' scope scope') {name : String}
    (hname : name ∈ names) : context.symbols.resolve name = context'.symbols.resolve name := by
  unfold SymbolTable.resolve
  rw [h.declared name hname]

/-- A subject has the same type in both scopes if the symbol that it names, if any, is listed. -/
theorem subjectType_eq (h : AgreesOn names context context' scope scope') {subject : Subject}
    (hsubject : subject.symbol?.toList ⊆ names) :
    context.subjectType scope subject = context'.subjectType scope' subject := by
  obtain ⟨symbol?, type?⟩ := subject
  cases symbol? with
  | none => cases type? <;> rfl
  | some name =>
    have hname : name ∈ names := hsubject (List.mem_singleton.mpr rfl)
    cases type? with
    | some reference => rfl
    | none =>
      change context.currentType scope name = context'.currentType scope' name
      unfold currentType
      rw [h.narrowed name hname, h.resolve_eq hname]

/-- A check is judged alike on both sides if its own names are listed. -/
theorem judge_eq (h : AgreesOn names context context' scope scope') {check : Check}
    (hnames : check.ownNames ⊆ names) :
    context.judge scope check = context'.judge scope' check := by
  cases check with
  | assign name value =>
    have hname : name ∈ names := hnames (List.mem_singleton.mpr rfl)
    simp only [judge, h.checker, h.resolve_eq hname]
  | test subject target guarded => simp only [judge, h.checker, h.subjectType_eq hnames]
  | access subject field => simp only [judge, h.checker, h.subjectType_eq hnames]

/-- A forest has the same diagnostics on both sides if all its names are listed. The sides agree in
the scopes of the guarded checks, since an accepted test narrows both in the same way. -/
theorem diagnose_eq {checks : List Check}
    (h : AgreesOn (Check.names checks) context context' scope scope') :
    context.diagnose scope checks = context'.diagnose scope' checks := by
  induction checks using Check.forest_induction generalizing scope scope' with
  | nil => simp
  | cons check rest ihGuarded ihRest =>
    rw [Check.names_cons] at h
    have hown : check.ownNames ⊆
        check.ownNames ++ (Check.names check.guarded ++ Check.names rest) :=
      List.subset_append_left ..
    have hguarded : AgreesOn (Check.names check.guarded) context context' scope scope' :=
      h.mono (by simp)
    have hrest : AgreesOn (Check.names rest) context context' scope scope' := h.mono (by simp)
    rw [diagnose_cons, diagnose_cons, h.judge_eq hown, ihRest hrest]
    cases context'.judge scope' check with
    | error failure => rfl
    | ok narrowing =>
      have hinside := ihGuarded (hguarded.narrow narrowing)
      simp only [hinside]

end Context.AgreesOn

namespace Runner

/-- The runners have the same rules and agree on the listed names: each of them is declared with the
same type in both or undeclared in both, and has the same innermost narrowing in both or none. -/
structure AgreesOn (names : List String) (runner runner' : Runner) : Prop where
  /-- The settings are the same. -/
  equality : runner.checker.config.unionEquality = runner'.checker.config.unionEquality
  /-- The schemas have the same fields. -/
  schema : ∀ typeName field,
    runner.checker.schema.hasField typeName field = runner'.checker.schema.hasField typeName field
  /-- The names are declared alike. -/
  declared : ∀ name ∈ names,
    (runner.symbols.find? name).map Symbol.type = (runner'.symbols.find? name).map Symbol.type
  /-- The names are narrowed alike. -/
  narrowed : ∀ name ∈ names, runner.narrowings.lookup name = runner'.narrowings.lookup name

/-- Making the checks adds the same diagnostics to the reports of both runners. -/
def AddsSame (checks : List Check) (runner runner' : Runner) : Prop :=
  ∃ added, (runner.runChecks checks).report.diagnostics = runner.report.diagnostics ++ added ∧
    (runner'.runChecks checks).report.diagnostics = runner'.report.diagnostics ++ added

/-- A symbol is known by its name and its type, so runners that agree on the type of a name agree on
its symbol. -/
theorem AgreesOn.toContext {names : List String} {runner runner' : Runner}
    (h : AgreesOn names runner runner') :
    Context.AgreesOn names runner.context runner'.context runner.scope runner'.scope where
  checker := Checker.eq_of_hasField h.equality h.schema
  declared := by
    intro name hname
    have htype := h.declared name hname
    change runner.symbols.find? name = runner'.symbols.find? name
    cases hfind : runner.symbols.find? name with
    | none =>
      cases hfind' : runner'.symbols.find? name with
      | none => rfl
      | some symbol' => simp [hfind, hfind'] at htype
    | some symbol =>
      cases hfind' : runner'.symbols.find? name with
      | none => simp [hfind, hfind'] at htype
      | some symbol' =>
        have hnames : symbol.name = symbol'.name := by
          rw [SymbolTable.name_of_find? hfind, SymbolTable.name_of_find? hfind']
        have htypes : symbol.type = symbol'.type := by simpa [hfind, hfind'] using htype
        obtain ⟨symbolName, type⟩ := symbol
        obtain ⟨symbolName', type'⟩ := symbol'
        obtain rfl : symbolName = symbolName' := hnames
        obtain rfl : type = type' := htypes
        rfl
  narrowed := h.narrowed

/-- Runners that agree on the names of a forest report the same about it. -/
theorem AgreesOn.addsSame {checks : List Check} {runner runner' : Runner}
    (h : AgreesOn (Check.names checks) runner runner') : AddsSame checks runner runner' := by
  refine ⟨runner.context.diagnose runner.scope checks, diagnostics_runChecks runner checks, ?_⟩
  rw [h.toContext.diagnose_eq]
  exact diagnostics_runChecks runner' checks

/-- Runners agree on all names if they differ in the order of their symbols only. -/
theorem agreesOn_of_perm {names : List String} {runner : Runner} {symbols : SymbolTable}
    (hperm : runner.symbols.toList.Perm symbols.toList) :
    AgreesOn names runner { runner with symbols } where
  equality := rfl
  schema := fun _ _ => rfl
  declared := by
    intro name _
    rw [SymbolTable.find?_eq_of_perm hperm]
  narrowed := fun _ _ => rfl

/-- A runner without the symbols of other names agrees with itself on the listed ones. -/
theorem agreesOn_filter_symbols (names : List String) (runner : Runner) :
    AgreesOn names runner { runner with symbols := runner.symbols.restrict names } where
  equality := rfl
  schema := fun _ _ => rfl
  declared := by
    intro name hname
    rw [SymbolTable.find?_restrict hname]
  narrowed := fun _ _ => rfl

/-- A narrowing that is shadowed by a later one, or that is of no listed name, can be left out of
the stack. -/
theorem agreesOn_of_narrowings {names : List String} {runner : Runner}
    {inner outer : List (String × Ty)} {name : String} {type : Ty}
    (hnarrowings : runner.narrowings = inner ++ (name, type) :: outer)
    (hidden : (inner.lookup name).isSome = true ∨ name ∉ names) :
    AgreesOn names runner { runner with narrowings := inner ++ outer } where
  equality := rfl
  schema := fun _ _ => rfl
  declared := fun _ _ => rfl
  narrowed := by
    intro other hother
    rw [hnarrowings, List.lookup_append, List.lookup_append]
    by_cases heq : other = name
    · rcases hidden with hshadowed | hunlisted
      · obtain ⟨type', htype'⟩ := Option.isSome_iff_exists.mp hshadowed
        rw [heq, htype', Option.some_or, Option.some_or]
      · exact absurd (heq ▸ hother) hunlisted
    · rw [List.lookup_cons, beq_eq_false_iff_ne.mpr heq]

/-- Runners that agree on the names of a forest add the same diagnostics when they make its checks.
So it makes no difference what was reported or logged before, in which order the symbols were
declared, what symbols there are that the forest does not name, and what narrowings are hidden
below the innermost ones. -/
theorem agreeing_runs (checks : List Check) :
    (∀ runner runner' : Runner, AgreesOn (Check.names checks) runner runner' →
      AddsSame checks runner runner') ∧
    (∀ (runner : Runner) (report : Report) (log : List Record),
      AddsSame checks runner { runner with report, log }) ∧
    (∀ (runner : Runner) (symbols : SymbolTable), runner.symbols.toList.Perm symbols.toList →
      AddsSame checks runner { runner with symbols }) ∧
    (∀ runner : Runner, AddsSame checks runner { runner with
      symbols := runner.symbols.restrict (Check.names checks) }) ∧
    ∀ (runner : Runner) (inner outer : List (String × Ty)) (name : String) (type : Ty),
      runner.narrowings = inner ++ (name, type) :: outer →
        (inner.lookup name).isSome = true ∨ name ∉ Check.names checks →
          AddsSame checks runner { runner with narrowings := inner ++ outer } := by
  refine ⟨fun runner runner' hagree => hagree.addsSame, fun runner report log => ?_,
    fun runner symbols hperm => (agreesOn_of_perm hperm).addsSame,
    fun runner => (agreesOn_filter_symbols (Check.names checks) runner).addsSame,
    fun runner inner outer name type hnarrowings hidden =>
      (agreesOn_of_narrowings hnarrowings hidden).addsSame⟩
  have hagree : AgreesOn (Check.names checks) runner { runner with report, log } :=
    ⟨rfl, fun _ _ => rfl, fun _ _ => rfl, fun _ _ => rfl⟩
  exact hagree.addsSame

/-- Two runners that differ in all that does not matter to the checks of `x`: the first is inside
two tests of it and has reported an error, and the second is inside a test of `x` and one of another
symbol, which it has declared first. -/
theorem agreeing_runs_on_x :
    let declared := Ty.union [.nominal "int", .nominal "Point"]
    let checks : List Check :=
      [.test { symbol? := some "x" } (.named "Point") [.access { symbol? := some "x" } "z"],
      .assign "x" (.named "bool")]
    let first : Runner :=
      { checker := {}
        symbols := { toList := [⟨"x", declared⟩, ⟨"y", .nominal "int"⟩] }
        narrowings := [("x", .nominal "Point"), ("x", declared)]
        report := Report.empty.fail (.undefinedSymbol "w") }
    let second : Runner :=
      { checker := {}
        symbols := { toList := [⟨"y", .nominal "string"⟩, ⟨"x", declared⟩] }
        narrowings := [("y", .nominal "string"), ("x", .nominal "Point")] }
    let exchanged : SymbolTable := { toList := [⟨"y", .nominal "int"⟩, ⟨"x", declared⟩] }
    AgreesOn (Check.names checks) first second ∧ AddsSame checks first second ∧
      first.symbols.toList.Perm exchanged.toList ∧
      AddsSame checks first { first with symbols := exchanged } ∧
      AddsSame checks first { first with narrowings := [("x", .nominal "Point")] } := by
  intro declared checks first second exchanged
  obtain ⟨hagreeing, _, hexchanged, _, hhidden⟩ := agreeing_runs checks
  have hnames : Check.names checks = ["x", "x", "x"] := by
    simp [checks, Check.names, Check.namesFrom]
  have hagree : AgreesOn (Check.names checks) first second := by
    rw [hnames]
    refine ⟨rfl, fun _ _ => rfl, ?_, ?_⟩
    · intro name hname
      obtain rfl : name = "x" := by simpa using hname
      rfl
    · intro name hname
      obtain rfl : name = "x" := by simpa using hname
      rfl
  have hperm : first.symbols.toList.Perm exchanged.toList := List.Perm.swap _ _ _
  exact ⟨hagree, hagreeing first second hagree, hperm, hexchanged first exchanged hperm,
    hhidden first [("x", .nominal "Point")] [] "x" declared rfl (.inl rfl)⟩

end Runner

end Narrowing
