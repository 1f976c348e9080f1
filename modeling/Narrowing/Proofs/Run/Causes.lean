import Narrowing.Proofs.Run.Agreement
import Narrowing.Proofs.Ty.Reference

/-!
# Why checks are rejected

A check is rejected for one of four causes: a reference in it stands for nothing, a symbol that it
names is neither narrowed nor declared, its subject is no subject, or the rule for checks of its
kind rejects it. Each cause has failures of its own, so a report tells the causes apart.
-/

namespace Narrowing

namespace Context

/-- The rule for checks of its kind is asked about a check, and rejects it. -/
inductive RejectedByRule (context : Context) (scope : Scope) : Check → RuleError → Prop
  /-- An assignment of a type that the declared type does not admit. -/
  | assign {name : String} {value : TypeRef} {symbol : Symbol} {type : Ty} {error : RuleError}
      (hvalue : value.resolve = .ok type) (hsymbol : context.symbols.resolve name = .ok symbol)
      (hrule : context.checker.checkAssignment symbol type = .error error) :
      RejectedByRule context scope (.assign name value) error
  /-- A test for a target that the type of the subject does not admit. -/
  | test {subject : Subject} {target : TypeRef} {guarded : List Check} {type narrowed : Ty}
      {error : RuleError} (hsubject : context.subjectType scope subject = .ok type)
      (htarget : target.resolve = .ok narrowed)
      (hrule : context.checker.checkTest type narrowed = .error error) :
      RejectedByRule context scope (.test subject target guarded) error
  /-- An access to a field that the type of the subject does not have. -/
  | access {subject : Subject} {field : String} {type : Ty} {error : RuleError}
      (hsubject : context.subjectType scope subject = .ok type)
      (hrule : context.checker.checkAccess type field = .error error) :
      RejectedByRule context scope (.access subject field) error

/-- The causes for which a check fails. -/
inductive FailsFor (context : Context) (scope : Scope) (check : Check) : Failure → Prop
  /-- A reference has an empty union in it. -/
  | reference : FailsFor context scope check .emptyUnion
  /-- A symbol that the check names is not declared. -/
  | undeclared {name : String} (hname : name ∈ check.ownNames)
      (hsymbol : context.symbols.resolve name = .error (.undefinedSymbol name)) :
      FailsFor context scope check (.undefinedSymbol name)
  /-- The subject is both a symbol and a type, or neither. -/
  | subject (message : String) : FailsFor context scope check (.script message)
  /-- A rule rejects the check. -/
  | rule {error : RuleError} (hrule : context.RejectedByRule scope check error) :
      FailsFor context scope check error.toFailure

variable {context : Context} {scope : Scope} {check : Check} {failure : Failure}

/-- A name that does not resolve is not declared. -/
theorem failsFor_of_resolve {name : String} (hname : name ∈ check.ownNames)
    (h : context.symbols.resolve name = .error failure) :
    context.FailsFor scope check failure := by
  obtain ⟨rfl, _⟩ := SymbolTable.resolve_eq_error_iff.mp h
  exact .undeclared hname h

/-- A reference that stands for nothing has an empty union in it. -/
theorem failsFor_of_reference {reference : TypeRef} (h : reference.resolve = .error failure) :
    context.FailsFor scope check failure := by
  rw [TypeRef.eq_emptyUnion_of_resolve h]
  exact .reference

/-- A subject has no type if it is no subject, if its type stands for nothing, or if its symbol is
neither narrowed nor declared. -/
theorem failsFor_of_subjectType {subject : Subject}
    (hsubject : subject.symbol?.toList ⊆ check.ownNames)
    (h : context.subjectType scope subject = .error failure) :
    context.FailsFor scope check failure := by
  obtain ⟨symbol?, type?⟩ := subject
  cases symbol? with
  | none =>
    cases type? with
    | none =>
      cases h
      exact .subject _
    | some reference => exact failsFor_of_reference h
  | some name =>
    cases type? with
    | some reference =>
      cases h
      exact .subject _
    | none =>
      have hname : name ∈ check.ownNames := hsubject (List.mem_singleton.mpr rfl)
      have hcurrent : context.currentType scope name = .error failure := h
      unfold currentType at hcurrent
      cases hscope : scope name with
      | some type => simp [hscope] at hcurrent
      | none =>
        simp only [hscope, bind_eq_error_iff] at hcurrent
        rcases hcurrent with hresolve | ⟨_, _, hpure⟩
        · exact failsFor_of_resolve hname hresolve
        · exact (pure_ne_error hpure).elim

/-- A rule that rejects does so with an error of its own, which is turned into a failure. -/
theorem exists_of_mapError_toFailure {α : Type} {outcome : Except RuleError α}
    (h : outcome.mapError RuleError.toFailure = .error failure) :
    ∃ error, outcome = .error error ∧ failure = error.toFailure := by
  cases outcome with
  | ok value => cases h
  | error error => exact ⟨error, rfl, (Except.error.inj h).symm⟩

/-- A rejected check is rejected for one of the causes. -/
theorem failsFor_of_judge (h : context.judge scope check = .error failure) :
    context.FailsFor scope check failure := by
  cases check with
  | assign name value =>
    simp only [judge, bind_eq_error_iff] at h
    rcases h with hvalue | ⟨type, hvalue, hsymbol | ⟨symbol, hsymbol, hmapped | ⟨_, _, hpure⟩⟩⟩
    · exact failsFor_of_reference hvalue
    · exact failsFor_of_resolve (List.mem_singleton.mpr rfl) hsymbol
    · obtain ⟨error, hrule, rfl⟩ := exists_of_mapError_toFailure hmapped
      exact .rule (.assign hvalue hsymbol hrule)
    · exact (pure_ne_error hpure).elim
  | test subject target guarded =>
    simp only [judge, bind_eq_error_iff] at h
    rcases h with hsubject | ⟨type, htype, htarget | ⟨narrowed, htarget, hmapped | ⟨_, _, hpure⟩⟩⟩
    · exact failsFor_of_subjectType (List.Subset.refl _) hsubject
    · exact failsFor_of_reference htarget
    · obtain ⟨error, hrule, rfl⟩ := exists_of_mapError_toFailure hmapped
      exact .rule (.test htype htarget hrule)
    · exact (pure_ne_error hpure).elim
  | access subject field =>
    simp only [judge, bind_eq_error_iff] at h
    rcases h with hsubject | ⟨type, htype, hmapped | ⟨_, _, hpure⟩⟩
    · exact failsFor_of_subjectType (List.Subset.refl _) hsubject
    · obtain ⟨error, hrule, rfl⟩ := exists_of_mapError_toFailure hmapped
      exact .rule (.access htype hrule)
    · exact (pure_ne_error hpure).elim

end Context

end Narrowing
