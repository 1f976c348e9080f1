import Narrowing.Proofs.Run.Settings
import Narrowing.Proofs.Run.SideBySide
import Narrowing.Proofs.Ty.Reference

/-!
# Unions with further members

A union that is declared for a symbol may be given further members. It then admits whatever it
admitted before, and an assignment or a test about the symbol that was accepted is accepted still.
A test narrows its symbol to its target and not to a part of the union, so the types inside the test
are the same. No access is concerned: a field is read from a nominal type only, and these are left
as they are.
-/

namespace Narrowing

/-- The same type, or two unions of which the second has the members of the first and perhaps
others. -/
inductive Ty.WidenedTo : Ty → Ty → Prop
  | same (type : Ty) : WidenedTo type type
  | union {members members' : List Ty} : members.Sublist members' →
      WidenedTo (.union members) (.union members')

namespace TypeRef

/-- Lists of references of which the second has the members of the first, in their order, and
between them any further references that stand for types. -/
inductive EnlargedTo : List TypeRef → List TypeRef → Prop
  | nil : EnlargedTo [] []
  | keep (member : TypeRef) {members members' : List TypeRef} : EnlargedTo members members' →
      EnlargedTo (member :: members) (member :: members')
  | add {added : TypeRef} {type : Ty} {members members' : List TypeRef} :
      added.resolve = .ok type → EnlargedTo members members' →
      EnlargedTo members (added :: members')

/-- The same reference, or two unions of which the second has further members. A union without
members is no type to add to: it stands for nothing, and no symbol is declared with it. -/
inductive WidenedTo : TypeRef → TypeRef → Prop
  | same (reference : TypeRef) : WidenedTo reference reference
  | union {members members' : List TypeRef} : members ≠ [] → EnlargedTo members members' →
      WidenedTo (.union members) (.union members')

end TypeRef

/-- Scripts that differ in further members of declared unions only. -/
structure Script.WidenedTo (script script' : Script) : Prop where
  /-- The settings are the same. -/
  config : script.config = script'.config
  /-- The fields are the same. -/
  fields : script.fields? = script'.fields?
  /-- The declarations declare the same names, some of them with further members. -/
  declarations : List.Forall₂ (Declaration.Matching TypeRef.WidenedTo) script.declarations
    script'.declarations
  /-- The checks are the same. -/
  checks : script.checks = script'.checks

/-! ### Types and references -/

/-- A widened type admits whatever the type admits. -/
theorem Checker.admits_of_widenedTo {checker : Checker} {type type' other : Ty}
    (h : type.WidenedTo type') (hadmits : checker.admits type other = true) :
    checker.admits type' other = true := by
  cases h with
  | same => exact hadmits
  | union hmembers =>
    obtain ⟨member, hmember, heq⟩ := List.any_eq_true.mp hadmits
    exact List.any_eq_true.mpr ⟨member, hmembers.subset hmember, heq⟩

/-- Nominal types are not widened. -/
theorem Ty.WidenedTo.eq_nominal {name : String} {type : Ty}
    (h : (Ty.nominal name).WidenedTo type) : type = .nominal name := by
  cases h
  rfl

namespace TypeRef

/-- What the first members stand for, the further ones stand for as well. -/
theorem EnlargedTo.exists_types {members members' : List TypeRef} (h : EnlargedTo members members')
    {types : List Ty}
    (htypes : List.Forall₂ (fun reference type => reference.resolve = .ok type) members types) :
    ∃ types', List.Forall₂ (fun reference type => reference.resolve = .ok type) members' types' ∧
      types.Sublist types' := by
  induction h generalizing types with
  | nil =>
    cases htypes
    exact ⟨[], .nil, .slnil⟩
  | keep member _ ih =>
    cases htypes with
    | cons hfirst hrest =>
      obtain ⟨types', htypes', hsublist⟩ := ih hrest
      exact ⟨_ :: types', .cons hfirst htypes', hsublist.cons_cons _⟩
  | add hadded _ ih =>
    obtain ⟨types', htypes', hsublist⟩ := ih htypes
    exact ⟨_ :: types', .cons hadded htypes', hsublist.cons _⟩

/-- If the members stand for types with the further ones, they do without them. -/
theorem EnlargedTo.exists_types_before {members members' : List TypeRef}
    (h : EnlargedTo members members') {types' : List Ty}
    (htypes' : List.Forall₂ (fun reference type => reference.resolve = .ok type) members'
      types') :
    ∃ types, List.Forall₂ (fun reference type => reference.resolve = .ok type) members types := by
  induction h generalizing types' with
  | nil => exact ⟨[], .nil⟩
  | keep member _ ih =>
    cases htypes' with
    | cons hfirst hrest =>
      obtain ⟨types, htypes⟩ := ih hrest
      exact ⟨_ :: types, .cons hfirst htypes⟩
  | add _ _ ih =>
    cases htypes' with
    | cons _ hrest => exact ih hrest

/-- A reference with further members stands for a widened type, or it stands for nothing as the
reference without them does. -/
theorem WidenedTo.related {reference reference' : TypeRef} (h : reference.WidenedTo reference') :
    reference.Related Ty.WidenedTo reference' := by
  unfold Related
  cases h with
  | same =>
    cases reference.resolve with
    | error failure => exact rfl
    | ok type => exact .same type
  | @union members members' hne hmembers =>
    cases hfirst : (TypeRef.union members).resolve with
    | ok type =>
      obtain ⟨types, htypes, rfl, hresolve⟩ := resolve_union_eq_ok_iff.mp hfirst
      obtain ⟨types', hresolve', hsublist⟩ := hmembers.exists_types hresolve
      have htypes' : types' ≠ [] := by
        rintro rfl
        exact htypes (List.sublist_nil.mp hsublist)
      have hsecond : (TypeRef.union members').resolve = .ok (.union types') :=
        resolve_union_eq_ok_iff.mpr ⟨types', htypes', rfl, hresolve'⟩
      rw [hsecond]
      exact .union hsublist
    | error failure =>
      cases hsecond : (TypeRef.union members').resolve with
      | error failure' =>
        rw [eq_emptyUnion_of_resolve hfirst, eq_emptyUnion_of_resolve hsecond]
        exact rfl
      | ok type' =>
        obtain ⟨types', _, _, hresolve'⟩ := resolve_union_eq_ok_iff.mp hsecond
        obtain ⟨types, hresolve⟩ := hmembers.exists_types_before hresolve'
        have htypes : types ≠ [] := by
          rintro rfl
          exact hne (List.forall₂_nil_right_iff.mp hresolve)
        have hfirst' : (TypeRef.union members).resolve = .ok (.union types) :=
          resolve_union_eq_ok_iff.mpr ⟨types, htypes, rfl, hresolve⟩
        rw [hfirst] at hfirst'
        cases hfirst'

end TypeRef

/-! ### Checks -/

/-- A scope is related to itself. -/
theorem Scope.related_widenedTo (scope : Scope) : scope.Related Ty.WidenedTo scope := by
  intro name
  cases scope name with
  | none => exact .none
  | some type => exact .some (.same type)

/-- A subject matches itself. -/
theorem Subject.matching_widenedTo (subject : Subject) :
    subject.Matching (TypeRef.Related Ty.WidenedTo) subject := by
  refine ⟨rfl, ?_⟩
  cases subject.type? with
  | none => exact .none
  | some reference => exact .some (TypeRef.WidenedTo.same reference).related

namespace Context

variable {context context' : Context}

/-- The type of a subject may be widened with the symbols, and it is the same if it is nominal. -/
theorem subjectType_of_widened
    (hsymbols : context.symbols.Related Ty.WidenedTo context'.symbols) {scope : Scope}
    {subject : Subject} {type : Ty} (htype : context.subjectType scope subject = .ok type) :
    ∃ type', context'.subjectType scope subject = .ok type' ∧ type.WidenedTo type' := by
  have halike := subjectType_alike hsymbols scope.related_widenedTo subject.matching_widenedTo
  rw [htype] at halike
  exact halike.exists_ok

/-- With widened symbols, whatever check is accepted is accepted still. -/
theorem yieldsTo_of_widened (hchecker : context.checker = context'.checker)
    (hsymbols : context.symbols.Related Ty.WidenedTo context'.symbols) :
    context.YieldsTo context' := by
  intro scope check narrowing h
  cases check with
  | assign name value =>
    rw [judge_assign_eq_ok_iff] at h ⊢
    obtain ⟨hnarrowing, type, symbol, htype, hsymbol, hadmits⟩ := h
    have halike := hsymbols.resolve name
    rw [hsymbol] at halike
    obtain ⟨symbol', hsymbol', hwidened⟩ := halike.exists_ok
    rw [hchecker] at hadmits
    exact ⟨hnarrowing, type, symbol', htype, hsymbol',
      Checker.admits_of_widenedTo hwidened.2 hadmits⟩
  | test subject target guarded =>
    rw [judge_test_eq_ok_iff] at h ⊢
    obtain ⟨type, narrowed, htype, htarget, hadmits, hnarrowing⟩ := h
    obtain ⟨type', htype', hwidened⟩ := subjectType_of_widened hsymbols htype
    rw [hchecker] at hadmits
    exact ⟨type', narrowed, htype', htarget, Checker.admits_of_widenedTo hwidened hadmits,
      hnarrowing⟩
  | access subject field =>
    rw [judge_access_eq_ok_iff] at h ⊢
    obtain ⟨hnarrowing, typeName, htype, hfield⟩ := h
    obtain ⟨type', htype', hwidened⟩ := subjectType_of_widened hsymbols htype
    rw [hchecker] at hfield
    exact ⟨hnarrowing, typeName, by rw [htype', hwidened.eq_nominal], hfield⟩

end Context

/-! ### Scripts -/

namespace Script

variable {script script' : Script}

/-- The declarations of a widened script fare as before, and its checks are judged with widened
symbols. -/
theorem WidenedTo.ready (h : script.WidenedTo script') (override : Option Config) :
    (script.ready override).context.YieldsTo (script'.ready override).context ∧
      (script.ready override).report.diagnostics.map Diagnostic.summary =
        (script'.ready override).report.diagnostics.map Diagnostic.summary := by
  have hstart : (script.start override).Related Ty.WidenedTo (script'.start override) :=
    ⟨.nil, rfl⟩
  obtain ⟨_, hready⟩ := hstart.declareAll <| h.declarations.imp fun _ _ hdeclaration =>
    hdeclaration.mono fun _ _ => TypeRef.WidenedTo.related
  have hchecker : (script.ready override).checker = (script'.ready override).checker := by
    rw [checker_ready, checker_ready, schema, schema, h.fields, h.config]
  exact ⟨Context.yieldsTo_of_widened hchecker hready.symbols, hready.report⟩

/-- A script whose declarations report nothing has an empty report when its checks begin. -/
theorem ready_report_eq_empty {override : Option Config}
    (h : (script.ready override).report.diagnostics = []) :
    (script.ready override).report = .empty := by
  obtain ⟨errors, _, hreport⟩ :=
    Runner.report_foldl_declare (script.start override) script.declarations
  have hready : (script.ready override).report = errors.foldl Report.add .empty := hreport
  rw [hready, Report.foldl_add] at h
  obtain rfl : errors = [] := h
  exact hready

/-- An accepted check of a script is made in the widened script as well, and accepted with the same
narrowing. -/
theorem WidenedTo.exists_step (h : script.WidenedTo script') {override : Option Config}
    {step : Step} (hstep : step ∈ script.steps override) (haccepted : step.accepted = true) :
    ∃ step' ∈ script'.steps override, step'.visit = step.visit ∧ step'.accepted = true ∧
      step'.runner.judge step'.check = step.runner.judge step.check := by
  obtain ⟨hyields, _⟩ := h.ready override
  obtain ⟨narrowing, hnarrowing⟩ := Step.accepted_eq_true_iff.mp haccepted
  obtain ⟨step', hstep', hvisit, hjudge⟩ := Runner.exists_step_of_yieldsTo
    (script'.ready override) hyields (scope_ready_eq script' script override override) hstep
  have hnarrowing' := hjudge narrowing hnarrowing
  unfold steps
  rw [← h.checks]
  exact ⟨step', hstep', hvisit, Step.accepted_eq_true_iff.mpr ⟨narrowing, hnarrowing'⟩,
    hnarrowing'.trans hnarrowing.symm⟩

/-- A widened script has nothing to report if the script has nothing to report. -/
theorem WidenedTo.report_eq_empty (h : script.WidenedTo script') {override : Option Config}
    (hempty : (script.run override).report = .empty) : (script'.run override).report = .empty := by
  obtain ⟨hyields, hsummaries⟩ := h.ready override
  have hnone : (script.run override).report.hasErrors = false := by
    rw [hempty]
    rfl
  obtain ⟨hready, hdiagnose⟩ := ready_report_of_not_hasErrors hnone
  have hready' : (script'.ready override).report = .empty := by
    apply ready_report_eq_empty
    rw [hready] at hsummaries
    exact List.map_eq_nil_iff.mp hsummaries.symm
  rw [run_eq, Runner.report_runChecks, hready', ← h.checks,
    scope_ready_eq script' script override override, hyields.diagnose_eq_nil hdiagnose]
  rfl

/-- Whatever the setting, further members of declared unions keep every accepted check accepted: it
is made at the same position and in the same scope, and has the same narrowing. In particular, a
report that is empty remains empty. -/
theorem accepted_of_widened (script script' : Script) (override : Option Config)
    (h : script.WidenedTo script') :
    (∀ step ∈ script.steps override, step.accepted = true →
      ∃ step' ∈ script'.steps override, step'.position = step.position ∧
        step'.check = step.check ∧ step'.accepted = true ∧
        step'.runner.scope = step.runner.scope ∧
        step'.runner.judge step'.check = step.runner.judge step.check) ∧
    ((script.run override).report = .empty → (script'.run override).report = .empty) := by
  refine ⟨fun step hstep haccepted => ?_, h.report_eq_empty⟩
  obtain ⟨step', hstep', hvisit, haccepted', hjudge⟩ := h.exists_step hstep haccepted
  exact ⟨step', hstep', congrArg Visit.position hvisit, congrArg Visit.check hvisit, haccepted',
    congrArg Visit.scope hvisit, hjudge⟩

/-- A script that reads a field of its symbol where the symbol is narrowed, and gives the symbol a
new value afterwards. It reports nothing. -/
def confined : Script where
  declarations := [⟨"p", .union [.named "int", .named "Point"]⟩, ⟨"q", .named "Point"⟩]
  checks :=
    [.test { symbol? := some "p" } (.named "Point") [.access { symbol? := some "p" } "x"],
    .assign "p" (.named "int")]

/-- The script with further members, one of them a union. -/
def roomy : Script :=
  { confined with
    declarations :=
      [⟨"p", .union [.named "str", .named "int", .union [.named "a", .named "b"], .named "Point"]⟩,
      ⟨"q", .named "Point"⟩] }

/-- In the roomier script the field is read in the same scope, and nothing is reported either. -/
theorem confined_roomy_accepted :
    confined.WidenedTo roomy ∧
      (∃ step ∈ confined.steps none, step.position = [0, 0] ∧ step.accepted = true ∧
        ∃ step' ∈ roomy.steps none, step'.position = [0, 0] ∧ step'.accepted = true ∧
          step'.runner.scope "p" = some (.nominal "Point")) ∧
      (confined.run none).report = .empty ∧ (roomy.run none).report = .empty := by
  have hunion : (TypeRef.union [.named "a", .named "b"]).resolve =
      .ok (.union [.nominal "a", .nominal "b"]) := rfl
  have hmembers : TypeRef.EnlargedTo [.named "int", .named "Point"]
      [.named "str", .named "int", .union [.named "a", .named "b"], .named "Point"] :=
    .add (TypeRef.resolve_named "str") <| .keep (.named "int") <| .add hunion <|
      .keep (.named "Point") .nil
  have hwidened : confined.WidenedTo roomy :=
    { config := rfl
      fields := rfl
      declarations :=
        .cons ⟨rfl, .union (List.cons_ne_nil _ _) hmembers⟩ (.cons ⟨rfl, .same _⟩ .nil)
      checks := rfl }
  obtain ⟨hsteps, hreport⟩ := accepted_of_widened confined roomy none hwidened
  have hlength : 1 < (confined.steps none).length := by decide
  have hempty : (confined.run none).report = .empty := by decide
  obtain ⟨step', hstep', hposition, _, haccepted, hscope, _⟩ :=
    hsteps _ (List.getElem_mem hlength) rfl
  exact ⟨hwidened, ⟨_, List.getElem_mem hlength, rfl, rfl, step', hstep', hposition, haccepted,
    congrFun hscope "p"⟩, hempty, hreport hempty⟩

/-- Where no symbol was declared for want of members, one more member makes a declaration of it, and
what was accepted before may be rejected. -/
example :
    let unions (members : List TypeRef) : Script :=
      { declarations := [⟨"x", .union members⟩, ⟨"x", .named "int"⟩]
        checks := [.assign "x" (.named "int")] }
    ((unions []).steps none).map Step.accepted = [true] ∧
      ((unions [.named "str"]).steps none).map Step.accepted = [false] := by
  decide

end Script

end Narrowing
