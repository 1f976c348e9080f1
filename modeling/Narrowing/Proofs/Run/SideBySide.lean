import Narrowing.Proofs.Run.Declarations

/-!
# Two runs side by side

Two scripts of the same shape are run side by side. Their types need not be the same, as long as
those at the same places are related. Where the rules of the two runs do not tell related types
apart, a check and its match are judged alike and narrow their scopes to related types again, so the
runs make the same checks, with the same verdicts and with failures of the same kinds.
-/

namespace Narrowing

/-! ### Forests of the same shape -/

section

variable (R : TypeRef → TypeRef → Prop)

/-- Subjects that differ in their references only. -/
def Subject.Matching (subject subject' : Subject) : Prop :=
  subject.symbol? = subject'.symbol? ∧ Option.Rel R subject.type? subject'.type?

/-- Checks that, apart from the checks they guard, differ in their references only. -/
inductive Check.Matching : Check → Check → Prop
  | assign {name : String} {value value' : TypeRef} : R value value' →
      Matching (.assign name value) (.assign name value')
  | test {subject subject' : Subject} {target target' : TypeRef} {guarded guarded' : List Check} :
      subject.Matching R subject' → R target target' →
      Matching (.test subject target guarded) (.test subject' target' guarded')
  | access {subject subject' : Subject} {field : String} : subject.Matching R subject' →
      Matching (.access subject field) (.access subject' field)

/-- Forests of checks that differ in their references only. -/
inductive Check.MatchingAll : List Check → List Check → Prop
  | nil : MatchingAll [] []
  | cons {check check' : Check} {rest rest' : List Check} : check.Matching R check' →
      MatchingAll check.guarded check'.guarded → MatchingAll rest rest' →
      MatchingAll (check :: rest) (check' :: rest')

/-- Declarations that differ in their references only. -/
def Declaration.Matching (declaration declaration' : Declaration) : Prop :=
  declaration.name = declaration'.name ∧ R declaration.type declaration'.type

end

section

variable {R S : TypeRef → TypeRef → Prop}

theorem Subject.Matching.mono (hRS : ∀ a b, R a b → S a b) {subject subject' : Subject}
    (h : subject.Matching R subject') : subject.Matching S subject' := by
  obtain ⟨symbol?, type?⟩ := subject
  obtain ⟨symbol?', type?'⟩ := subject'
  obtain ⟨hsymbol, htype⟩ := h
  refine ⟨hsymbol, ?_⟩
  cases htype with
  | some h => exact .some (hRS _ _ h)
  | none => exact .none

theorem Check.Matching.mono (hRS : ∀ a b, R a b → S a b) {check check' : Check}
    (h : check.Matching R check') : check.Matching S check' := by
  cases h with
  | assign hvalue => exact .assign (hRS _ _ hvalue)
  | test hsubject htarget => exact .test (hsubject.mono hRS) (hRS _ _ htarget)
  | access hsubject => exact .access (hsubject.mono hRS)

theorem Check.MatchingAll.mono (hRS : ∀ a b, R a b → S a b) {checks checks' : List Check}
    (h : Check.MatchingAll R checks checks') : Check.MatchingAll S checks checks' := by
  induction h with
  | nil => exact .nil
  | cons hcheck _ _ ihGuarded ihRest => exact .cons (hcheck.mono hRS) ihGuarded ihRest

theorem Declaration.Matching.mono (hRS : ∀ a b, R a b → S a b)
    {declaration declaration' : Declaration} (h : declaration.Matching R declaration') :
    declaration.Matching S declaration' :=
  ⟨h.1, hRS _ _ h.2⟩

/-- Matching forests are empty alike. -/
theorem Check.MatchingAll.isEmpty_eq {checks checks' : List Check}
    (h : Check.MatchingAll R checks checks') : checks.isEmpty = checks'.isEmpty := by
  cases h <;> rfl

end

/-- What a verdict depends on: the severity of a diagnostic and its kind. -/
def Diagnostic.summary (diagnostic : Diagnostic) : Severity × Option String :=
  (diagnostic.severity, diagnostic.kind?)

/-! ### Related types -/

section

variable (T : Ty → Ty → Prop)

/-- References that stand for related types, or for nothing alike. -/
def TypeRef.Related (reference reference' : TypeRef) : Prop :=
  Alike T reference.resolve reference'.resolve

/-- Rules that do not tell related types apart: the first ones treat types as the second ones treat
the types that are related to these. -/
structure Checker.Related (checker checker' : Checker) : Prop where
  /-- Related types are both unions or both nominal. -/
  isUnion : ∀ {type type' : Ty}, T type type' → type.isUnion = type'.isUnion
  /-- Related types admit related types alike. -/
  admits : ∀ {type type' other other' : Ty}, T type type' → T other other' →
    checker.admits type other = checker'.admits type' other'
  /-- Related nominal types have the same fields. -/
  hasField : ∀ {name name' : String}, T (.nominal name) (.nominal name') → ∀ field,
    checker.schema.hasField name field = checker'.schema.hasField name' field

/-- Symbols of the same name whose types are related. -/
def Symbol.Related (symbol symbol' : Symbol) : Prop :=
  symbol.name = symbol'.name ∧ T symbol.type symbol'.type

/-- Tables of related symbols in the same order. -/
def SymbolTable.Related (table table' : SymbolTable) : Prop :=
  List.Forall₂ (Symbol.Related T) table.toList table'.toList

/-- Scopes that narrow the same symbols, to related types. -/
def Scope.Related (scope scope' : Scope) : Prop :=
  ∀ name, Option.Rel T (scope name) (scope' name)

/-- Contexts whose rules do not tell related types apart, with related symbols. -/
structure Context.Related (context context' : Context) : Prop where
  /-- The rules are related. -/
  checker : context.checker.Related T context'.checker
  /-- The symbols are related. -/
  symbols : context.symbols.Related T context'.symbols

/-- Narrowings of the same symbol, or of none, to related types. -/
def RelatedNarrowing : Option (String × Ty) → Option (String × Ty) → Prop :=
  Option.Rel fun entry entry' => entry.1 = entry'.1 ∧ T entry.2 entry'.2

/-- Visits at the same place of matching forests whose checks are judged alike. -/
structure Context.VisitAlike (context context' : Context) (visit visit' : Visit) : Prop where
  /-- The positions are the same. -/
  position : visit.position = visit'.position
  /-- The guarded checks differ in their references only. -/
  guarded : Check.MatchingAll (TypeRef.Related T) visit.check.guarded visit'.check.guarded
  /-- The checks are accepted alike, with related narrowings, or rejected alike. -/
  judge : Alike (RelatedNarrowing T) (context.judge visit.scope visit.check)
    (context'.judge visit'.scope visit'.check)

/-- Runners with related symbols whose reports have the same severities and kinds. -/
structure Runner.Related (runner runner' : Runner) : Prop where
  /-- The symbols are related. -/
  symbols : runner.symbols.Related T runner'.symbols
  /-- The diagnostics so far have the same severities and kinds. -/
  report : runner.report.diagnostics.map Diagnostic.summary =
    runner'.report.diagnostics.map Diagnostic.summary

end

variable {T : Ty → Ty → Prop}

/-! ### Rules -/

namespace Checker.Related

variable {checker checker' : Checker}

/-- Assignments of related types to symbols of related types fare alike. -/
theorem checkAssignment (h : checker.Related T checker') {symbol symbol' : Symbol}
    {value value' : Ty} (hsymbol : T symbol.type symbol'.type) (hvalue : T value value') :
    Alike (fun _ _ => True) ((checker.checkAssignment symbol value).mapError RuleError.toFailure)
      ((checker'.checkAssignment symbol' value').mapError RuleError.toFailure) := by
  unfold Checker.checkAssignment
  rw [h.admits hsymbol hvalue, h.isUnion hsymbol]
  by_cases hadmits : checker'.admits symbol'.type value' = true
  · simp [hadmits, Alike]
  · by_cases hunion : symbol'.type.isUnion = true <;>
      simp [hadmits, hunion, Alike, RuleError.kind]

/-- Tests of related types for related targets fare alike. -/
theorem checkTest (h : checker.Related T checker') {subject subject' target target' : Ty}
    (hsubject : T subject subject') (htarget : T target target') :
    Alike (fun _ _ => True) ((checker.checkTest subject target).mapError RuleError.toFailure)
      ((checker'.checkTest subject' target').mapError RuleError.toFailure) := by
  unfold Checker.checkTest
  rw [h.admits hsubject htarget, h.isUnion hsubject]
  by_cases hadmits : checker'.admits subject' target' = true
  · simp [hadmits, Alike]
  · by_cases hunion : subject'.isUnion = true <;>
      simp [hadmits, hunion, Alike, RuleError.kind]

/-- Accesses to related types fare alike. -/
theorem checkAccess (h : checker.Related T checker') {subject subject' : Ty} (field : String)
    (hsubject : T subject subject') :
    Alike (fun _ _ => True) ((checker.checkAccess subject field).mapError RuleError.toFailure)
      ((checker'.checkAccess subject' field).mapError RuleError.toFailure) := by
  have hunion := h.isUnion hsubject
  cases subject with
  | nominal name =>
    cases subject' with
    | nominal name' =>
      have hfield := h.hasField hsubject field
      by_cases hname : checker'.schema.hasField name' field = true <;>
        simp [Checker.checkAccess, hfield, hname, Alike, RuleError.kind]
    | union members' => cases hunion
  | union members =>
    cases subject' with
    | nominal name' => cases hunion
    | union members' => simp [Checker.checkAccess, Alike]

end Checker.Related

/-! ### Symbols and scopes -/

namespace SymbolTable.Related

variable {table table' : SymbolTable}

/-- A name leads to related symbols in related tables. -/
theorem find? (h : table.Related T table') (name : String) :
    Option.Rel (Symbol.Related T) (table.find? name) (table'.find? name) := by
  unfold SymbolTable.Related at h
  unfold SymbolTable.find?
  generalize table.toList = symbols at h ⊢
  generalize table'.toList = symbols' at h ⊢
  induction h with
  | nil => exact .none
  | @cons symbol symbol' _ _ hsymbol _ ih =>
    simp only [List.find?_cons, hsymbol.1]
    cases symbol'.name == name with
    | true => exact .some hsymbol
    | false => exact ih

theorem resolve (h : table.Related T table') (name : String) :
    Alike (Symbol.Related T) (table.resolve name) (table'.resolve name) := by
  have hfind := h.find? name
  unfold SymbolTable.resolve
  cases hsymbol : table.find? name with
  | none =>
    cases hsymbol' : table'.find? name with
    | none => exact rfl
    | some symbol' => simp [hsymbol, hsymbol'] at hfind
  | some symbol =>
    cases hsymbol' : table'.find? name with
    | none => simp [hsymbol, hsymbol'] at hfind
    | some symbol' => simpa [hsymbol, hsymbol'] using hfind

/-- Related symbols are declared alike in related tables. -/
theorem declare (h : table.Related T table') {symbol symbol' : Symbol}
    (hsymbol : symbol.Related T symbol') :
    Alike (fun result result' => result.1 = result'.1 ∧ result.2.Related T result'.2)
      (table.declare symbol) (table'.declare symbol') := by
  have hfind := h.find? symbol.name
  have hsize : table.size = table'.size := List.Forall₂.length_eq h
  have hisSome : (table.find? symbol.name).isSome = (table'.find? symbol'.name).isSome := by
    rw [← hsymbol.1]
    generalize table.find? symbol.name = first at hfind
    generalize table'.find? symbol.name = second at hfind
    cases hfind <;> rfl
  have hfree : table.find? symbol.name = none ↔ table'.find? symbol'.name = none := by
    rw [← Option.not_isSome_iff_eq_none, ← Option.not_isSome_iff_eq_none, hisSome]
  cases hdeclare : table.declare symbol with
  | error failure =>
    rcases declare_eq_error_iff.mp hdeclare with ⟨htaken, rfl⟩ | ⟨hnone, hfull, rfl⟩
    · rw [declare_eq_error_iff.mpr (.inl ⟨hisSome ▸ htaken, rfl⟩)]
      exact rfl
    · rw [declare_eq_error_iff.mpr (.inr ⟨hfree.mp hnone, hsize ▸ hfull, rfl⟩)]
      exact rfl
  | ok result =>
    obtain ⟨id, after⟩ := result
    obtain ⟨hnone, hroom, rfl, hafter⟩ := declare_eq_ok_iff.mp hdeclare
    rw [declare_eq_ok (hfree.mp hnone) (hsize ▸ hroom)]
    refine ⟨congrArg UInt32.ofNat hsize, ?_⟩
    unfold SymbolTable.Related
    rw [hafter]
    exact List.rel_append h (.cons hsymbol .nil)

end SymbolTable.Related

/-- Related narrowings keep scopes related. -/
theorem Scope.Related.narrow {scope scope' : Scope} (h : scope.Related T scope')
    {narrowing narrowing' : Option (String × Ty)}
    (hnarrowing : RelatedNarrowing T narrowing narrowing') :
    (scope.narrow narrowing).Related T (scope'.narrow narrowing') := by
  cases hnarrowing with
  | none => exact h
  | @some entry entry' hentry =>
    obtain ⟨name, type⟩ := entry
    obtain ⟨name', type'⟩ := entry'
    obtain ⟨rfl, htype⟩ := hentry
    intro other
    by_cases hother : other = name
    · simpa [Scope.narrow, hother] using htype
    · simpa [Scope.narrow, hother] using h other

/-! ### Verdicts -/

namespace Context

variable {context context' : Context} {scope scope' : Scope}

theorem currentType_alike (hsymbols : context.symbols.Related T context'.symbols)
    (hscope : scope.Related T scope') (name : String) :
    Alike T (context.currentType scope name) (context'.currentType scope' name) := by
  have hname := hscope name
  unfold currentType
  cases hnarrowed : scope name with
  | some type =>
    cases hnarrowed' : scope' name with
    | some type' => simpa [hnarrowed, hnarrowed'] using hname
    | none => simp [hnarrowed, hnarrowed'] at hname
  | none =>
    cases hnarrowed' : scope' name with
    | some type' => simp [hnarrowed, hnarrowed'] at hname
    | none => exact (hsymbols.resolve name).bind fun _ _ hsymbol => .pure hsymbol.2

theorem subjectType_alike (hsymbols : context.symbols.Related T context'.symbols)
    (hscope : scope.Related T scope') {subject subject' : Subject}
    (hsubject : subject.Matching (TypeRef.Related T) subject') :
    Alike T (context.subjectType scope subject) (context'.subjectType scope' subject') := by
  obtain ⟨symbol?, type?⟩ := subject
  obtain ⟨symbol?', type?'⟩ := subject'
  obtain ⟨hsymbol, htype⟩ := hsubject
  obtain rfl : symbol? = symbol?' := hsymbol
  unfold subjectType
  cases htype with
  | none =>
    cases symbol? with
    | none => exact rfl
    | some name => exact currentType_alike hsymbols hscope name
  | some hreference =>
    cases symbol? with
    | none => exact hreference
    | some name => exact rfl

/-- Matching checks are judged alike in related scopes, and narrow these scopes alike. -/
theorem judge_alike (hcontext : context.Related T context') (hscope : scope.Related T scope')
    {check check' : Check} (hcheck : check.Matching (TypeRef.Related T) check') :
    Alike (RelatedNarrowing T) (context.judge scope check) (context'.judge scope' check') := by
  cases hcheck with
  | assign hvalue =>
    refine Alike.bind hvalue fun value value' hvalue => ?_
    refine (hcontext.symbols.resolve _).bind fun symbol symbol' hsymbol => ?_
    refine (hcontext.checker.checkAssignment hsymbol.2 hvalue).bind fun _ _ _ => ?_
    exact .pure .none
  | @test subject subject' _ _ _ _ hsubject htarget =>
    refine (subjectType_alike hcontext.symbols hscope hsubject).bind fun type type' htype => ?_
    refine Alike.bind htarget fun target target' htarget => ?_
    refine (hcontext.checker.checkTest htype htarget).bind fun _ _ _ => ?_
    rw [hsubject.1]
    cases subject'.symbol? with
    | none => exact .pure .none
    | some name => exact .pure (.some ⟨rfl, htarget⟩)
  | @access _ _ field hsubject =>
    refine (subjectType_alike hcontext.symbols hscope hsubject).bind fun type type' htype => ?_
    refine (hcontext.checker.checkAccess field htype).bind fun _ _ _ => ?_
    exact .pure .none

/-- Matching forests are visited alike in related scopes. A check and its match are judged alike;
either both are rejected, or the checks they guard are visited in scopes that are related again. -/
theorem visits_alike (hcontext : context.Related T context') (hscope : scope.Related T scope')
    {checks checks' : List Check}
    (hchecks : Check.MatchingAll (TypeRef.Related T) checks checks') (parent : List Nat)
    (index : Nat) :
    List.Forall₂ (context.VisitAlike T context') (context.visits scope parent index checks)
      (context'.visits scope' parent index checks') := by
  induction hchecks generalizing scope scope' parent index with
  | nil => simp
  | @cons check check' rest rest' hcheck hguarded _ ihGuarded ihRest =>
    have hjudge := judge_alike hcontext hscope hcheck
    have hinside : List.Forall₂ (context.VisitAlike T context')
        (context.visitsInside scope (parent ++ [index]) check)
        (context'.visitsInside scope' (parent ++ [index]) check') := by
      unfold visitsInside
      rcases hjudge.elim with ⟨narrowing, narrowing', hverdict, hverdict', hnarrowing⟩ |
        ⟨failure, failure', hverdict, hverdict', _⟩
      · rw [hverdict, hverdict']
        exact ihGuarded (hscope.narrow hnarrowing) (parent ++ [index]) 0
      · rw [hverdict, hverdict']
        exact .nil
    rw [visits_cons, visits_cons]
    exact .cons ⟨rfl, hguarded, hjudge⟩
      (List.rel_append hinside (ihRest hscope parent (index + 1)))

end Context

/-- The diagnostics of a rejected check, as far as verdicts go: the kind of the failure, and whether
any checks are skipped. -/
theorem Check.summary_rejection {check check' : Check} {failure failure' : Failure}
    (hkind : failure.kind = failure'.kind)
    (hguarded : check.guarded.isEmpty = check'.guarded.isEmpty) :
    (check.rejection failure).map Diagnostic.summary =
      (check'.rejection failure').map Diagnostic.summary := by
  unfold Check.rejection
  rw [Check.skipRemark_eq_ite, Check.skipRemark_eq_ite, hguarded]
  by_cases hempty : check'.guarded.isEmpty = true <;>
    simp [hempty, Diagnostic.summary, Diagnostic.ofFailure, Diagnostic.addNote, Diagnostic.remark,
      hkind]

/-- Lists that are related item by item become the same under functions that do not tell related
items apart. -/
theorem map_eq_map_of_forall₂ {α α' β : Type} {R : α → α' → Prop} {f : α → β} {g : α' → β}
    {items : List α} {items' : List α'} (h : List.Forall₂ R items items')
    (hfg : ∀ item item', R item item' → f item = g item') : items.map f = items'.map g := by
  induction h with
  | nil => rfl
  | cons hfirst _ ih => rw [List.map_cons, List.map_cons, hfg _ _ hfirst, ih]

namespace Context

variable {context context' : Context} {scope scope' : Scope}

namespace VisitAlike

variable {visit visit' : Visit}

theorem accepts_eq (h : context.VisitAlike T context' visit visit') :
    context.accepts visit = context'.accepts visit' := by
  unfold accepts
  rcases h.judge.elim with ⟨_, _, hverdict, hverdict', _⟩ | ⟨_, _, hverdict, hverdict', _⟩
  · rw [hverdict, hverdict']
    rfl
  · rw [hverdict, hverdict']
    rfl

theorem summary_eq (h : context.VisitAlike T context' visit visit') :
    (context.diagnostics visit).map Diagnostic.summary =
      (context'.diagnostics visit').map Diagnostic.summary := by
  unfold diagnostics
  rcases h.judge.elim with ⟨_, _, hverdict, hverdict', _⟩ | ⟨_, _, hverdict, hverdict', hkind⟩
  · rw [hverdict, hverdict']
  · rw [hverdict, hverdict']
    exact Check.summary_rejection hkind h.guarded.isEmpty_eq

end VisitAlike

/-- Matching forests have diagnostics of the same severities and kinds. -/
theorem diagnose_summary (hcontext : context.Related T context')
    (hscope : scope.Related T scope') {checks checks' : List Check}
    (hchecks : Check.MatchingAll (TypeRef.Related T) checks checks') :
    (context.diagnose scope checks).map Diagnostic.summary =
      (context'.diagnose scope' checks').map Diagnostic.summary := by
  have hsummaries := map_eq_map_of_forall₂ (visits_alike hcontext hscope hchecks [] 0)
    fun _ _ hvisit => hvisit.summary_eq
  rw [← flatMap_diagnostics_visits context scope [] 0,
    ← flatMap_diagnostics_visits context' scope' [] 0, List.map_flatMap, List.map_flatMap,
    List.flatMap_def, List.flatMap_def, hsummaries]

end Context

/-! ### Runs -/

namespace Runner

variable {runner runner' : Runner}

/-- Matching declarations fare alike, and related runners remain related. -/
theorem Related.declare (h : runner.Related T runner') {declaration declaration' : Declaration}
    (hdeclaration : declaration.Matching (TypeRef.Related T) declaration') :
    (runner.enlist declaration).isOk = (runner'.enlist declaration').isOk ∧
      (runner.declare declaration).Related T (runner'.declare declaration') := by
  have halike : Alike (fun result result' => result.1 = result'.1 ∧ result.2.Related T result'.2)
      (runner.enlist declaration) (runner'.enlist declaration') :=
    Alike.bind hdeclaration.2 fun type type' htype =>
      h.symbols.declare ⟨hdeclaration.1, htype⟩
  rcases halike.elim with ⟨result, result', hverdict, hverdict', _, hsymbols⟩ |
    ⟨failure, failure', hverdict, hverdict', hkind⟩
  · rw [hverdict, hverdict', declare_of_ok hverdict, declare_of_ok hverdict']
    exact ⟨rfl, hsymbols, h.report⟩
  · rw [hverdict, hverdict', declare_of_error hverdict, declare_of_error hverdict']
    refine ⟨rfl, h.symbols, ?_⟩
    simp [h.report, hkind, Diagnostic.summary, Diagnostic.addNote, Diagnostic.ofFailure]

/-- So it is with declarations made one after the other. -/
theorem Related.declareAll (h : runner.Related T runner')
    {declarations declarations' : List Declaration}
    (hdeclarations : List.Forall₂ (Declaration.Matching (TypeRef.Related T)) declarations
      declarations') :
    runner.declarationVerdicts declarations = runner'.declarationVerdicts declarations' ∧
      (declarations.foldl Runner.declare runner).Related T
        (declarations'.foldl Runner.declare runner') := by
  induction hdeclarations generalizing runner runner' with
  | nil => exact ⟨rfl, h⟩
  | cons hfirst _ ih =>
    obtain ⟨hverdict, hnext⟩ := h.declare hfirst
    obtain ⟨hverdicts, hlast⟩ := ih hnext
    refine ⟨?_, hlast⟩
    rw [declarationVerdicts, declarationVerdicts, hverdict, hverdicts]

/-- What a runner's steps come to, as far as it can be told from their visits. -/
theorem map_steps {α : Type} (runner : Runner) (checks : List Check) {f : Step → α}
    {g : Visit → α}
    (h : ∀ step ∈ runner.steps [] 0 checks, f step = g step.visit) :
    (runner.steps [] 0 checks).map f =
      (runner.context.visits runner.scope [] 0 checks).map g := by
  rw [← (steps_visits runner [] 0 checks).1, List.map_map]
  exact List.map_congr_left h

/-- Related runners add diagnostics of the same severities and kinds to their reports. -/
theorem Related.runChecks (h : runner.Related T runner')
    (hchecker : runner.checker.Related T runner'.checker)
    (hscope : runner.scope.Related T runner'.scope) {checks checks' : List Check}
    (hchecks : Check.MatchingAll (TypeRef.Related T) checks checks') :
    (runner.runChecks checks).report.diagnostics.map Diagnostic.summary =
      (runner'.runChecks checks').report.diagnostics.map Diagnostic.summary := by
  have hcontext : runner.context.Related T runner'.context := ⟨hchecker, h.symbols⟩
  rw [diagnostics_runChecks, diagnostics_runChecks, List.map_append, List.map_append, h.report,
    Context.diagnose_summary hcontext hscope hchecks]

end Runner

end Narrowing
