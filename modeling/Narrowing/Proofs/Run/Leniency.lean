import Narrowing.Proofs.Run.Declarations

/-!
# More lenient contexts

One context yields to another if all that it accepts is accepted there too, with the same narrowing.
Then the other one goes wherever it goes, and in the same scopes. It may go further: a test that
only the other one accepts opens the way to checks of which the first knows nothing, and these may
fail.
-/

namespace Narrowing

/-- Whatever check the first context accepts in a scope, the second one accepts in this scope, and
narrows it in the same way. -/
def Context.YieldsTo (context context' : Context) : Prop :=
  ∀ (scope : Scope) (check : Check) (narrowing : Option (String × Ty)),
    context.judge scope check = .ok narrowing → context'.judge scope check = .ok narrowing

namespace Context.YieldsTo

variable {context context' : Context} {scope : Scope} {checks : List Check}

/-- A more lenient context makes every check that the first one makes, in the same scope. Where the
first one enters the checks that a test guards, the second one enters them with the same
narrowing. -/
theorem visits_sublist (h : context.YieldsTo context') (scope : Scope) (parent : List Nat)
    (index : Nat) (checks : List Check) :
    (context.visits scope parent index checks).Sublist
      (context'.visits scope parent index checks) := by
  induction checks using Check.forest_induction generalizing scope parent index with
  | nil => simp
  | cons check rest ihGuarded ihRest =>
    have hinside : (context.visitsInside scope (parent ++ [index]) check).Sublist
        (context'.visitsInside scope (parent ++ [index]) check) := by
      unfold visitsInside
      cases hjudge : context.judge scope check with
      | error failure => exact List.nil_sublist _
      | ok narrowing =>
        rw [h scope check narrowing hjudge]
        exact ihGuarded (scope.narrow narrowing) (parent ++ [index]) 0
    rw [visits_cons, visits_cons]
    exact (hinside.append (ihRest scope parent (index + 1))).cons_cons _

/-- Checks of which the first context has nothing to report are no reason for a report in a more
lenient one. -/
theorem diagnose_eq_nil (h : context.YieldsTo context')
    (hdiagnose : context.diagnose scope checks = []) : context'.diagnose scope checks = [] := by
  induction checks using Check.forest_induction generalizing scope with
  | nil => simp
  | cons check rest ihGuarded ihRest =>
    rw [diagnose_cons, List.append_eq_nil_iff] at hdiagnose ⊢
    refine ⟨?_, ihRest hdiagnose.2⟩
    cases hjudge : context.judge scope check with
    | error failure => simp [hjudge, Check.rejection] at hdiagnose
    | ok narrowing =>
      rw [h scope check narrowing hjudge]
      simp only [hjudge] at hdiagnose
      exact ihGuarded hdiagnose.1

end Context.YieldsTo

/-- For each step of a runner, one with a more lenient context makes the same check at the same
position and in the same scope, and accepts it with the same narrowing if the first one accepts
it. -/
theorem Runner.exists_step_of_yieldsTo {runner : Runner} (runner' : Runner)
    (h : runner.context.YieldsTo runner'.context) (hscope : runner'.scope = runner.scope)
    {parent : List Nat} {index : Nat} {checks : List Check} {step : Step}
    (hstep : step ∈ runner.steps parent index checks) :
    ∃ step' ∈ runner'.steps parent index checks, step'.visit = step.visit ∧
      ∀ narrowing, step.runner.judge step.check = .ok narrowing →
        step'.runner.judge step'.check = .ok narrowing := by
  obtain ⟨hvisits, hcontexts⟩ := steps_visits runner parent index checks
  obtain ⟨hvisits', hcontexts'⟩ := steps_visits runner' parent index checks
  have hmem : step.visit ∈ runner.context.visits runner.scope parent index checks := by
    rw [← hvisits]
    exact List.mem_map_of_mem hstep
  have hvisit : step.visit ∈ (runner'.steps parent index checks).map Step.visit := by
    rw [hvisits', hscope]
    exact (h.visits_sublist runner.scope parent index checks).subset hmem
  obtain ⟨step', hstep', heq⟩ := List.mem_map.mp hvisit
  have hcheck : step'.check = step.check := congrArg Visit.check heq
  have hsame : step'.runner.scope = step.runner.scope := congrArg Visit.scope heq
  refine ⟨step', hstep', heq, fun narrowing hjudge => ?_⟩
  rw [judge_eq, hcontexts step hstep] at hjudge
  rw [judge_eq, hcontexts' step' hstep', hcheck, hsame]
  exact h step.runner.scope step.check narrowing hjudge

end Narrowing
