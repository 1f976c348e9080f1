import Narrowing.Proofs.Run.Steps

/-!
# Declarations before checks

A script makes all its declarations before its first check. They change the symbols, the report and
the log only, so the checks begin with no narrowing in force and under the script's own rules.
-/

namespace Narrowing

namespace Runner

/-- What comes of a declaration: the new symbol's identifier and the symbols with it, or why there
is no new symbol. -/
def enlist (runner : Runner) (declaration : Declaration) :
    Except Failure (SymbolId × SymbolTable) := do
  runner.symbols.declare ⟨declaration.name, ← declaration.type.resolve⟩

/-- The verdicts on the listed declarations, which are made one after the other. -/
def declarationVerdicts (runner : Runner) : List Declaration → List Bool
  | [] => []
  | declaration :: rest =>
    (runner.enlist declaration).isOk :: (runner.declare declaration).declarationVerdicts rest

/-- A declaration that stands for nothing asks nothing of the table. -/
theorem enlist_of_error {runner : Runner} {declaration : Declaration} {failure : Failure}
    (hresolve : declaration.type.resolve = .error failure) :
    runner.enlist declaration = .error failure := by
  rw [enlist, hresolve]
  rfl

/-- A declaration that stands for a type asks the table to declare its symbol. -/
theorem enlist_of_ok {runner : Runner} {declaration : Declaration} {type : Ty}
    (hresolve : declaration.type.resolve = .ok type) :
    runner.enlist declaration = runner.symbols.declare ⟨declaration.name, type⟩ := by
  rw [enlist, hresolve, ok_bind]

/-- A rejected declaration is reported with a note that names its symbol, and changes nothing
else. -/
theorem declare_of_error {runner : Runner} {declaration : Declaration} {failure : Failure}
    (henlist : runner.enlist declaration = .error failure) :
    runner.declare declaration =
      { runner with
        report := runner.report.add
          ((Diagnostic.ofFailure failure).addNote s!"while declaring '{declaration.name}'") } := by
  have hdeclare : runner.declare declaration =
      runner.fail failure s!"while declaring '{declaration.name}'" := by
    unfold declare
    unfold enlist at henlist
    simp only [henlist]
  rw [hdeclare, fail, Report.fail_addNote]

/-- An accepted declaration changes the symbols, and is logged. -/
theorem declare_of_ok {runner : Runner} {declaration : Declaration} {id : SymbolId}
    {symbols : SymbolTable} (henlist : runner.enlist declaration = .ok (id, symbols)) :
    runner.declare declaration =
      { runner with
        symbols
        log := runner.log ++ [⟨.debug, s!"declared symbol #{id} '{declaration.name}'"⟩] } := by
  unfold declare
  unfold enlist at henlist
  simp only [henlist]
  rfl

/-- An accepted declaration adds one symbol at the end of the table. -/
theorem exists_symbol_of_enlist {runner : Runner} {declaration : Declaration}
    {result : SymbolId × SymbolTable} (henlist : runner.enlist declaration = .ok result) :
    ∃ symbol : Symbol, declaration.name = symbol.name ∧
      declaration.type.resolve = .ok symbol.type ∧
      (runner.declare declaration).symbols.toList = runner.symbols.toList ++ [symbol] := by
  obtain ⟨type, htype, hdeclare⟩ := bind_eq_ok_iff.mp henlist
  obtain ⟨_, _, _, hsymbols⟩ := SymbolTable.declare_eq_ok_iff.mp hdeclare
  refine ⟨⟨declaration.name, type⟩, rfl, htype, ?_⟩
  rw [declare_of_ok henlist, hsymbols]

/-- A declaration has no influence on the rules and on the narrowings in force. -/
theorem declare_unchanged (runner : Runner) (declaration : Declaration) :
    (runner.declare declaration).checker = runner.checker ∧
      (runner.declare declaration).narrowings = runner.narrowings := by
  cases henlist : runner.enlist declaration with
  | error failure => simp [declare_of_error henlist]
  | ok result => simp [declare_of_ok henlist]

/-- Nor do declarations made one after the other. -/
theorem foldl_declare_unchanged (runner : Runner) (declarations : List Declaration) :
    (declarations.foldl declare runner).checker = runner.checker ∧
      (declarations.foldl declare runner).narrowings = runner.narrowings := by
  induction declarations generalizing runner with
  | nil => exact ⟨rfl, rfl⟩
  | cons declaration rest ih =>
    obtain ⟨hchecker, hnarrowings⟩ := declare_unchanged runner declaration
    rw [List.foldl_cons, (ih _).1, (ih _).2, hchecker, hnarrowings]
    exact ⟨rfl, rfl⟩

/-- What comes of declarations depends on the symbols and the report that they start from, and on
nothing else. -/
theorem foldl_declare_congr {runner runner' : Runner} (hsymbols : runner.symbols = runner'.symbols)
    (hreport : runner.report = runner'.report) (declarations : List Declaration) :
    (declarations.foldl declare runner).symbols = (declarations.foldl declare runner').symbols ∧
      (declarations.foldl declare runner).report = (declarations.foldl declare runner').report := by
  induction declarations generalizing runner runner' with
  | nil => exact ⟨hsymbols, hreport⟩
  | cons declaration rest ih =>
    have henlist : runner.enlist declaration = runner'.enlist declaration := by
      rw [enlist, enlist, hsymbols]
    rw [List.foldl_cons, List.foldl_cons]
    cases hverdict : runner'.enlist declaration with
    | error failure =>
      rw [hverdict] at henlist
      rw [declare_of_error henlist, declare_of_error hverdict]
      exact ih hsymbols (by rw [hreport])
    | ok result =>
      rw [hverdict] at henlist
      rw [declare_of_ok henlist, declare_of_ok hverdict]
      exact ih rfl hreport

/-- Declarations add errors to the report, and nothing else. -/
theorem report_foldl_declare (runner : Runner) (declarations : List Declaration) :
    ∃ errors : List Diagnostic, (∀ error ∈ errors, error.severity = .error) ∧
      (declarations.foldl declare runner).report = errors.foldl Report.add runner.report := by
  induction declarations generalizing runner with
  | nil => exact ⟨[], by simp, rfl⟩
  | cons declaration rest ih =>
    obtain ⟨errors, herrors, hreport⟩ := ih (runner.declare declaration)
    rw [List.foldl_cons, hreport]
    cases henlist : runner.enlist declaration with
    | error failure =>
      refine ⟨(Diagnostic.ofFailure failure).addNote s!"while declaring '{declaration.name}'" ::
        errors, List.forall_mem_cons.mpr ⟨rfl, herrors⟩, ?_⟩
      rw [declare_of_error henlist, List.foldl_cons]
    | ok result =>
      refine ⟨errors, herrors, ?_⟩
      rw [declare_of_ok henlist]

/-- A symbol of the table has been there before the declarations, or one of them gave its name to
the type that it stands for. -/
theorem mem_symbols_foldl_declare {runner : Runner} {declarations : List Declaration}
    {symbol : Symbol} (hsymbol : symbol ∈ (declarations.foldl declare runner).symbols.toList) :
    symbol ∈ runner.symbols.toList ∨ ∃ declaration ∈ declarations,
      declaration.name = symbol.name ∧ declaration.type.resolve = .ok symbol.type := by
  induction declarations generalizing runner with
  | nil => exact .inl hsymbol
  | cons declaration rest ih =>
    rw [List.foldl_cons] at hsymbol
    rcases ih hsymbol with hdeclared | ⟨other, hother, hname, htype⟩
    · cases henlist : runner.enlist declaration with
      | error failure =>
        rw [declare_of_error henlist] at hdeclared
        exact .inl hdeclared
      | ok result =>
        obtain ⟨added, hname, htype, hsymbols⟩ := exists_symbol_of_enlist henlist
        rw [hsymbols, List.mem_append, List.mem_singleton] at hdeclared
        rcases hdeclared with hbefore | rfl
        · exact .inl hbefore
        · exact .inr ⟨declaration, List.mem_cons_self .., hname, htype⟩
    · exact .inr ⟨other, List.mem_cons_of_mem _ hother, hname, htype⟩

end Runner

namespace Script

/-- The runner of a script before its first declaration. -/
def start (script : Script) (override : Option Config) : Runner where
  checker := ⟨script.schema, override.getD script.config⟩
  log := [⟨.info, s!"running {script.checks.length} checks " ++
    "(" ++ (override.getD script.config).unionEquality.label ++ ")"⟩]

/-- The runner of a script after its last declaration. -/
def ready (script : Script) (override : Option Config) : Runner :=
  script.declarations.foldl Runner.declare (script.start override)

/-- The steps of a script, which are those of its checks. -/
def steps (script : Script) (override : Option Config) : List Step :=
  (script.ready override).steps [] 0 script.checks

/-- The verdicts on the declarations of a script. -/
def declarationVerdicts (script : Script) (override : Option Config) : List Bool :=
  (script.start override).declarationVerdicts script.declarations

theorem run_eq (script : Script) (override : Option Config) :
    script.run override = (script.ready override).runChecks script.checks := rfl

/-- The checks are judged by the script's own rules. -/
theorem checker_ready (script : Script) (override : Option Config) :
    (script.ready override).checker = ⟨script.schema, override.getD script.config⟩ :=
  (Runner.foldl_declare_unchanged (script.start override) script.declarations).1

/-- No narrowing is in force when the checks begin. -/
theorem scope_ready (script : Script) (override : Option Config) (name : String) :
    (script.ready override).scope name = none := by
  have hnarrowings := (Runner.foldl_declare_unchanged (script.start override)
    script.declarations).2
  unfold Runner.scope ready
  rw [hnarrowings]
  rfl

/-- So all scripts begin their checks in the same scope. -/
theorem scope_ready_eq (script script' : Script) (override override' : Option Config) :
    (script.ready override).scope = (script'.ready override').scope := by
  funext name
  rw [scope_ready, scope_ready]

/-- The checks leave the symbols as the declarations made them. -/
theorem symbols_run (script : Script) (override : Option Config) :
    (script.run override).symbols = (script.ready override).symbols := by
  rw [run_eq]
  exact (Runner.runChecks_unchanged (script.ready override) script.checks).2.1

end Script

end Narrowing
