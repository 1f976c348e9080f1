import Narrowing.Proofs.Outcome
import Narrowing.Runner

/-!
# Lexical scopes

What a script means can be told without a stack: each check is judged in the scope of the tests
around it, which maps the narrowed symbols to their types. Going through a forest of checks in this
way yields the checks that are made, each with its place and its scope, and from these alone the
diagnostics of a run.
-/

namespace Narrowing

namespace Check

/-- The checks that a check guards; only tests guard any. -/
def guarded : Check → List Check
  | .assign .. => []
  | .test _ _ guarded => guarded
  | .access .. => []

/-- The remark on the checks that are skipped with a rejected check, if there are any. It counts the
checks that this one guards directly. -/
def skipRemark (check : Check) : List Diagnostic :=
  match check.guarded.length with
  | 0 => []
  | 1 => [{ severity := .note, message := s!"skipped 1 check guarded by `{check.text}`" }]
  | count =>
    [{ severity := .note, message := s!"skipped {count} checks guarded by `{check.text}`" }]

/-- The diagnostics of a rejected check: its failure with a note that names the check, and the
remark on the skipped checks. -/
def rejection (check : Check) (failure : Failure) : List Diagnostic :=
  (Diagnostic.ofFailure failure).addNote s!"while checking `{check.text}`" :: check.skipRemark

/-- The remark has no kind. -/
theorem kind?_of_mem_skipRemark {check : Check} {remark : Diagnostic}
    (h : remark ∈ check.skipRemark) : remark.kind? = none := by
  unfold skipRemark at h
  split at h
  · cases h
  · rw [List.mem_singleton.mp h]
  · rw [List.mem_singleton.mp h]

/-- The remark is the one that a run makes. -/
theorem skipRemark_eq_ite (check : Check) :
    check.skipRemark =
      if check.guarded.isEmpty then []
      else [.remark (Runner.skipMessage check.guarded check)] := by
  unfold skipRemark
  split
  · next hnone => rw [if_pos (List.isEmpty_iff_length_eq_zero.mpr hnone)]
  · next hone =>
    have hsome : ¬ check.guarded.isEmpty = true := by
      rw [List.isEmpty_iff_length_eq_zero, hone]
      exact Nat.one_ne_zero
    rw [if_neg hsome, Runner.skipMessage_of_length_eq_one hone, Diagnostic.remark]
  · next hsome hmany =>
    rw [← List.isEmpty_iff_length_eq_zero] at hsome
    rw [if_neg hsome, Runner.skipMessage_of_length_ne_one hmany, Diagnostic.remark]

/-- A rejected check is one error, however many checks it guards. -/
theorem countP_rejection (check : Check) (failure : Failure) :
    (check.rejection failure).countP (·.severity = .error) = 1 := by
  rw [rejection, skipRemark_eq_ite, List.countP_cons_of_pos (by rfl)]
  split <;> rfl

/-- A property holds of all forests of checks if it holds of the empty one, and of every other one
whenever it holds of the checks guarded by the first check and of the checks that follow. -/
theorem forest_induction {motive : List Check → Prop} (nil : motive [])
    (cons : ∀ check rest, motive check.guarded → motive rest → motive (check :: rest)) :
    ∀ checks, motive checks
  | [] => nil
  | .assign name value :: rest =>
    cons (.assign name value) rest nil (forest_induction nil cons rest)
  | .test subject target guarded :: rest =>
    cons (.test subject target guarded) rest (forest_induction nil cons guarded)
      (forest_induction nil cons rest)
  | .access subject field :: rest =>
    cons (.access subject field) rest nil (forest_induction nil cons rest)

end Check

/-- The type that narrowings give to each symbol at one place of a script, if they give it any. -/
def Scope : Type := String → Option Ty

/-- The scope inside a check that narrows a symbol to a type; any other check leaves its scope as it
is. -/
def Scope.narrow (scope : Scope) : Option (String × Ty) → Scope
  | none => scope
  | some (name, type) => fun other => if other = name then some type else scope other

/-- What holds of all narrowings of a scope, and of the one that is put in force, holds of all
narrowings after that. -/
theorem Scope.forall_narrow {motive : String → Ty → Prop} {scope : Scope}
    {narrowing : Option (String × Ty)}
    (hscope : ∀ name type, scope name = some type → motive name type)
    (hnarrowing : ∀ name type, narrowing = some (name, type) → motive name type) :
    ∀ name type, scope.narrow narrowing name = some type → motive name type := by
  intro name type htype
  cases narrowing with
  | none => exact hscope name type htype
  | some entry =>
    obtain ⟨name', type'⟩ := entry
    by_cases hname : name = name'
    · obtain rfl : type' = type := by simpa [Scope.narrow, hname] using htype
      exact hnarrowing name type' (by rw [hname])
    · exact hscope name type (by simpa [Scope.narrow, hname] using htype)

/-- What all checks of a run have in common. -/
structure Context where
  /-- The rules. -/
  checker : Checker
  /-- The declared symbols. -/
  symbols : SymbolTable

/-- A check that is made, at its place in a forest. -/
structure Visit where
  /-- The way to the check: its index among its siblings comes last, after those of the tests that
  guard it. -/
  position : List Nat
  /-- The check. -/
  check : Check
  /-- The scope in which the check is judged. -/
  scope : Scope

namespace Context

/-- The type of a symbol in a scope: what it is narrowed to, or else its declared type. -/
def currentType (context : Context) (scope : Scope) (name : String) : Except Failure Ty :=
  match scope name with
  | some type => .ok type
  | none => do return (← context.symbols.resolve name).type

/-- The type of a subject in a scope. -/
def subjectType (context : Context) (scope : Scope) (subject : Subject) : Except Failure Ty :=
  match subject.symbol?, subject.type? with
  | some name, none => context.currentType scope name
  | none, some type => type.resolve
  | _, _ => .error (.script "a check needs exactly one of 'symbol' or 'type'")

/-- The verdict on a check in a scope: why it is rejected, or else how it narrows the scope of the
checks that it guards. A test narrows its symbol to the target; an assignment goes by the declared
type of its symbol. -/
def judge (context : Context) (scope : Scope) : Check → Except Failure (Option (String × Ty))
  | .assign name value => do
    let value ← value.resolve
    let symbol ← context.symbols.resolve name
    (context.checker.checkAssignment symbol value).mapError RuleError.toFailure
    return none
  | .test subject target _ => do
    let type ← context.subjectType scope subject
    let target ← target.resolve
    let _ ← (context.checker.checkTest type target).mapError RuleError.toFailure
    return subject.symbol?.map fun name => (name, target)
  | .access subject field => do
    let type ← context.subjectType scope subject
    (context.checker.checkAccess type field).mapError RuleError.toFailure
    return none

mutual

/-- The visit of a check, and those of the checks that it guards if it is accepted. -/
def visitsFrom (context : Context) (scope : Scope) (position : List Nat) : Check → List Visit
  | .assign name value => [⟨position, .assign name value, scope⟩]
  | .test subject target guarded =>
    ⟨position, .test subject target guarded, scope⟩ ::
      match context.judge scope (.test subject target guarded) with
      | .ok narrowing => context.visits (scope.narrow narrowing) position 0 guarded
      | .error _ => []
  | .access subject field => [⟨position, .access subject field, scope⟩]

/-- The visits of the checks that are made of a list of siblings, in order. The siblings share the
position of the check that guards them, and are numbered from the given index. -/
def visits (context : Context) (scope : Scope) (parent : List Nat) (index : Nat) :
    List Check → List Visit
  | [] => []
  | check :: rest =>
    context.visitsFrom scope (parent ++ [index]) check ++
      context.visits scope parent (index + 1) rest

end

mutual

/-- The diagnostics of a check and of the checks that it guards. -/
def diagnoseFrom (context : Context) (scope : Scope) : Check → List Diagnostic
  | .assign name value =>
    match context.judge scope (.assign name value) with
    | .ok _ => []
    | .error failure => Check.rejection (.assign name value) failure
  | .test subject target guarded =>
    match context.judge scope (.test subject target guarded) with
    | .ok narrowing => context.diagnose (scope.narrow narrowing) guarded
    | .error failure => Check.rejection (.test subject target guarded) failure
  | .access subject field =>
    match context.judge scope (.access subject field) with
    | .ok _ => []
    | .error failure => Check.rejection (.access subject field) failure

/-- The diagnostics of the listed checks, which are judged in the given scope. -/
def diagnose (context : Context) (scope : Scope) : List Check → List Diagnostic
  | [] => []
  | check :: rest => context.diagnoseFrom scope check ++ context.diagnose scope rest

end

/-- Whether the check of a visit is accepted. -/
def accepts (context : Context) (visit : Visit) : Bool :=
  (context.judge visit.scope visit.check).isOk

/-- The diagnostics of a visit, without those of the visits inside it. -/
def diagnostics (context : Context) (visit : Visit) : List Diagnostic :=
  match context.judge visit.scope visit.check with
  | .ok _ => []
  | .error failure => visit.check.rejection failure

/-- The visits inside a check: those of the checks it guards, in the narrowed scope, or none if it
is rejected. -/
def visitsInside (context : Context) (scope : Scope) (position : List Nat) (check : Check) :
    List Visit :=
  match context.judge scope check with
  | .ok narrowing => context.visits (scope.narrow narrowing) position 0 check.guarded
  | .error _ => []

/-- What is visited inside a check is visited in the scope that the check leaves to those that it
guards, provided that it is accepted. -/
theorem mem_visitsInside_iff {context : Context} {scope : Scope} {position : List Nat}
    {check : Check} {visit : Visit} :
    visit ∈ context.visitsInside scope position check ↔
      ∃ narrowing, context.judge scope check = .ok narrowing ∧
        visit ∈ context.visits (scope.narrow narrowing) position 0 check.guarded := by
  unfold visitsInside
  cases context.judge scope check <;> simp

@[simp] theorem visits_nil (context : Context) (scope : Scope) (parent : List Nat) (index : Nat) :
    context.visits scope parent index [] = [] := by
  simp only [visits]

/-- A check comes first, then come the checks inside it, and then its siblings. -/
theorem visits_cons (context : Context) (scope : Scope) (parent : List Nat) (index : Nat)
    (check : Check) (rest : List Check) :
    context.visits scope parent index (check :: rest) =
      ⟨parent ++ [index], check, scope⟩ ::
        (context.visitsInside scope (parent ++ [index]) check ++
          context.visits scope parent (index + 1) rest) := by
  cases check with
  | assign name value =>
    cases hjudge : context.judge scope (.assign name value) <;>
      simp [visits, visitsFrom, visitsInside, hjudge, Check.guarded]
  | test subject target guarded =>
    cases hjudge : context.judge scope (.test subject target guarded) <;>
      simp [visits, visitsFrom, visitsInside, hjudge, Check.guarded]
  | access subject field =>
    cases hjudge : context.judge scope (.access subject field) <;>
      simp [visits, visitsFrom, visitsInside, hjudge, Check.guarded]

@[simp] theorem diagnose_nil (context : Context) (scope : Scope) :
    context.diagnose scope [] = [] := by
  simp only [diagnose]

/-- An accepted check is followed into the checks that it guards, and a rejected one is not. -/
theorem diagnose_cons (context : Context) (scope : Scope) (check : Check) (rest : List Check) :
    context.diagnose scope (check :: rest) =
      (match context.judge scope check with
        | .ok narrowing => context.diagnose (scope.narrow narrowing) check.guarded
        | .error failure => check.rejection failure) ++ context.diagnose scope rest := by
  cases check with
  | assign name value => simp [diagnose, diagnoseFrom, Check.guarded]
  | test subject target guarded => simp [diagnose, diagnoseFrom, Check.guarded]
  | access subject field => simp [diagnose, diagnoseFrom, Check.guarded]

/-- The diagnostics of a forest are those of its visits, wherever the forest is placed. -/
theorem flatMap_diagnostics_visits (context : Context) (scope : Scope) (parent : List Nat)
    (index : Nat) (checks : List Check) :
    (context.visits scope parent index checks).flatMap context.diagnostics =
      context.diagnose scope checks := by
  induction checks using Check.forest_induction generalizing scope parent index with
  | nil => simp
  | cons check rest ihGuarded ihRest =>
    rw [visits_cons, diagnose_cons, List.flatMap_cons, List.flatMap_append, ihRest,
      ← List.append_assoc]
    congr 1
    unfold diagnostics visitsInside
    cases hjudge : context.judge scope check with
    | error failure => simp
    | ok narrowing =>
      rw [List.nil_append]
      exact ihGuarded (scope.narrow narrowing) (parent ++ [index]) 0

/-- A symbol has the type that it is narrowed to, or its declared type if it is not narrowed. -/
theorem currentType_eq_ok_iff {context : Context} {scope : Scope} {name : String} {type : Ty} :
    context.currentType scope name = .ok type ↔
      scope name = some type ∨
        scope name = none ∧ ∃ symbol, context.symbols.resolve name = .ok symbol ∧
          symbol.type = type := by
  unfold currentType
  cases scope name with
  | some narrowed => simp
  | none => simp only [bind_eq_ok_iff, pure_eq_ok_iff, reduceCtorEq, false_or, true_and]

/-- A subject that names a symbol has a type only if it names nothing else, and then it is the
symbol's. -/
theorem currentType_of_subjectType {context : Context} {scope : Scope} {subject : Subject}
    {name : String} {type : Ty} (hname : subject.symbol? = some name)
    (htype : context.subjectType scope subject = .ok type) :
    context.currentType scope name = .ok type := by
  unfold subjectType at htype
  cases hreference : subject.type? with
  | none => simpa [hname, hreference] using htype
  | some reference => simp [hname, hreference] at htype

/-- An assignment is accepted exactly when its reference stands for a type that the declared type of
the symbol admits; it narrows nothing. -/
theorem judge_assign_eq_ok_iff {context : Context} {scope : Scope} {name : String}
    {value : TypeRef} {narrowing : Option (String × Ty)} :
    context.judge scope (.assign name value) = .ok narrowing ↔
      narrowing = none ∧ ∃ type symbol, value.resolve = .ok type ∧
        context.symbols.resolve name = .ok symbol ∧
          context.checker.admits symbol.type type = true := by
  simp only [judge, bind_eq_ok_iff, pure_eq_ok_iff, mapError_eq_ok_iff]
  constructor
  · rintro ⟨type, htype, symbol, hsymbol, _, hcheck, rfl⟩
    exact ⟨rfl, type, symbol, htype, hsymbol, Checker.checkAssignment_eq_ok_iff.mp hcheck⟩
  · rintro ⟨rfl, type, symbol, htype, hsymbol, hadmits⟩
    exact ⟨type, htype, symbol, hsymbol, (), Checker.checkAssignment_eq_ok_iff.mpr hadmits, rfl⟩

/-- A test is accepted exactly when its target stands for a type that the type of the subject
admits; it narrows the symbol it is about, if it is about one, to that type. -/
theorem judge_test_eq_ok_iff {context : Context} {scope : Scope} {subject : Subject}
    {target : TypeRef} {guarded : List Check} {narrowing : Option (String × Ty)} :
    context.judge scope (.test subject target guarded) = .ok narrowing ↔
      ∃ type narrowed, context.subjectType scope subject = .ok type ∧
        target.resolve = .ok narrowed ∧ context.checker.admits type narrowed = true ∧
          narrowing = subject.symbol?.map fun name => (name, narrowed) := by
  simp only [judge, bind_eq_ok_iff, pure_eq_ok_iff, mapError_eq_ok_iff]
  constructor
  · rintro ⟨type, htype, narrowed, hnarrowed, _, hcheck, rfl⟩
    exact ⟨type, narrowed, htype, hnarrowed, (Checker.checkTest_eq_ok_iff.mp hcheck).1, rfl⟩
  · rintro ⟨type, narrowed, htype, hnarrowed, hadmits, rfl⟩
    exact ⟨type, htype, narrowed, hnarrowed, narrowed,
      Checker.checkTest_eq_ok_iff.mpr ⟨hadmits, rfl⟩, rfl⟩

/-- An access is accepted exactly when the type of the subject is nominal and has the field; it
narrows nothing. -/
theorem judge_access_eq_ok_iff {context : Context} {scope : Scope} {subject : Subject}
    {field : String} {narrowing : Option (String × Ty)} :
    context.judge scope (.access subject field) = .ok narrowing ↔
      narrowing = none ∧ ∃ typeName, context.subjectType scope subject = .ok (.nominal typeName) ∧
        context.checker.schema.hasField typeName field = true := by
  simp only [judge, bind_eq_ok_iff, pure_eq_ok_iff, mapError_eq_ok_iff]
  constructor
  · rintro ⟨type, htype, _, hcheck, rfl⟩
    obtain ⟨typeName, rfl, hfield⟩ := Checker.checkAccess_eq_ok_iff.mp hcheck
    exact ⟨rfl, typeName, htype, hfield⟩
  · rintro ⟨rfl, typeName, htype, hfield⟩
    exact ⟨.nominal typeName, htype, (), Checker.checkAccess_eq_ok_iff.mpr ⟨typeName, rfl, hfield⟩,
      rfl⟩

/-- An accepted check that narrows a symbol is a test about it: the current type of the symbol
admits what it is narrowed to. -/
theorem admits_of_judge {context : Context} {scope : Scope} {check : Check} {name : String}
    {type : Ty} (hjudge : context.judge scope check = .ok (some (name, type))) :
    ∃ current, context.currentType scope name = .ok current ∧
      context.checker.admits current type = true := by
  cases check with
  | assign symbol value => simp [judge_assign_eq_ok_iff] at hjudge
  | access subject field => simp [judge_access_eq_ok_iff] at hjudge
  | test subject target guarded =>
    obtain ⟨current, narrowed, hsubject, _, hadmits, hnarrowing⟩ := judge_test_eq_ok_iff.mp hjudge
    obtain ⟨name', hname, hentry⟩ := Option.map_eq_some_iff.mp hnarrowing.symm
    obtain ⟨rfl, rfl⟩ := Prod.mk.inj hentry
    exact ⟨current, currentType_of_subjectType hname hsubject, hadmits⟩

/-- A visit is accepted when its check is, with whatever narrowing. -/
theorem accepts_eq_true_iff {context : Context} {visit : Visit} :
    context.accepts visit = true ↔
      ∃ narrowing, context.judge visit.scope visit.check = .ok narrowing := by
  unfold accepts
  cases context.judge visit.scope visit.check <;> simp [Except.isOk, Except.toBool]

/-- What holds in the outermost scope and is kept by every narrowing of an accepted check holds in
the scope of every check that is made. -/
theorem scope_of_mem_visits {context : Context} {motive : Scope → Prop}
    (hnarrow : ∀ scope check narrowing, motive scope → context.judge scope check = .ok narrowing →
      motive (scope.narrow narrowing))
    {checks : List Check} {scope : Scope} {parent : List Nat} {index : Nat} (hscope : motive scope)
    {visit : Visit} (hvisit : visit ∈ context.visits scope parent index checks) :
    motive visit.scope := by
  induction checks using Check.forest_induction generalizing scope parent index with
  | nil => simp at hvisit
  | cons check rest ihGuarded ihRest =>
    rw [visits_cons, List.mem_cons, List.mem_append] at hvisit
    rcases hvisit with rfl | hinside | hrest
    · exact hscope
    · unfold visitsInside at hinside
      cases hjudge : context.judge scope check with
      | error failure => simp [hjudge] at hinside
      | ok narrowing =>
        rw [hjudge] at hinside
        exact ihGuarded (hnarrow scope check narrowing hscope hjudge) hinside
    · exact ihRest hscope hrest

end Context

end Narrowing
