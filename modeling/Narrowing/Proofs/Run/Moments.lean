import Narrowing.Proofs.Run.Branches
import Narrowing.Proofs.Run.Causes
import Narrowing.Proofs.Run.Members
import Narrowing.Proofs.Ty.Written

/-!
# The states of a run

A run goes through states: before and after each declaration, before and after each check, after a
check is announced, and inside the tests that are accepted. At each of these moments the stack of
narrowings is made up by the accepted tests around the moment, from the outermost to the innermost;
all names on it are declared, and no type in the table of symbols or on the stack has an empty union
in it.
-/

namespace Narrowing

/-- A state that a run goes through. -/
structure Moment where
  /-- The way to the test inside which the runner is, and none if it is inside no test. -/
  place : List Nat
  /-- The state of the runner. -/
  runner : Runner

namespace Runner

mutual

/-- The states in the course of a check, up to where the checks inside it have been made or the
check has been rejected. -/
def momentsFrom (runner : Runner) (parent : List Nat) (index : Nat) : Check → List Moment
  | .assign name value => [⟨parent, runner.announce (.assign name value)⟩]
  | .test subject target guarded =>
    let announced := runner.announce (.test subject target guarded)
    ⟨parent, announced⟩ ::
      match runner.judgeTest subject target with
      | .ok type => (announced.enter subject type).moments (parent ++ [index]) 0 guarded
      | .error failure => [⟨parent, announced.reject (.test subject target guarded) failure⟩]
  | .access subject field => [⟨parent, runner.announce (.access subject field)⟩]

/-- The states in the course of the checks of a list, from before the first one to after the last
one. -/
def moments (runner : Runner) (parent : List Nat) (index : Nat) : List Check → List Moment
  | [] => [⟨parent, runner⟩]
  | check :: rest =>
    ⟨parent, runner⟩ :: (runner.momentsFrom parent index check ++
      (runner.runCheck check).moments parent (index + 1) rest)

end

/-- The states of a run begin with the runner as it is given and end with what becomes of it. -/
theorem moments_ends (runner : Runner) (parent : List Nat) (index : Nat) (checks : List Check) :
    (runner.moments parent index checks).head? = some ⟨parent, runner⟩ ∧
      (runner.moments parent index checks).getLast? =
        some ⟨parent, runner.runChecks checks⟩ := by
  induction checks generalizing runner index with
  | nil => simp [moments, runChecks]
  | cons check rest ih =>
    refine ⟨by simp [moments], ?_⟩
    obtain ⟨_, hlast⟩ := ih (runner.runCheck check) (index + 1)
    rw [moments, runChecks, List.getLast?_cons, List.getLast?_append, hlast]
    rfl

/-- A state in the course of a list of checks is one outside of them all, with the symbols and the
narrowings of the beginning, or one inside the first check, which is accepted, or one in the course
of the checks that follow. -/
theorem mem_moments_cons {runner : Runner} {parent : List Nat} {index : Nat} {check : Check}
    {rest : List Check} {moment : Moment}
    (h : moment ∈ runner.moments parent index (check :: rest)) :
    (moment.place = parent ∧ moment.runner.context = runner.context ∧
        moment.runner.narrowings = runner.narrowings) ∨
      (∃ narrowing, runner.judge check = .ok narrowing ∧
        moment ∈ ((runner.announce check).push narrowing).moments (parent ++ [index]) 0
          check.guarded) ∨
      moment ∈ (runner.runCheck check).moments parent (index + 1) rest := by
  rw [moments, List.mem_cons, List.mem_append] at h
  rcases h with rfl | hfirst | hrest
  · exact .inl ⟨rfl, rfl, rfl⟩
  · cases check with
    | assign name value =>
      rw [List.mem_singleton.mp hfirst]
      exact .inl ⟨rfl, rfl, rfl⟩
    | access subject field =>
      rw [List.mem_singleton.mp hfirst]
      exact .inl ⟨rfl, rfl, rfl⟩
    | test subject target guarded =>
      rw [momentsFrom, List.mem_cons] at hfirst
      rcases hfirst with rfl | hinside
      · exact .inl ⟨rfl, rfl, rfl⟩
      · cases hjudge : runner.judgeTest subject target with
        | error failure =>
          rw [hjudge] at hinside
          rw [List.mem_singleton.mp hinside]
          exact .inl ⟨rfl, rfl, rfl⟩
        | ok type =>
          rw [hjudge] at hinside
          refine .inr (.inl ⟨subject.symbol?.map fun name => (name, type), ?_, ?_⟩)
          · rw [judge_test, hjudge]
            rfl
          · rw [← enter_eq_push]
            exact hinside
  · exact .inr (.inr hrest)

/-- A check leaves the rules, the symbols and the narrowings in force as they were. -/
theorem runCheck_unchanged (runner : Runner) (check : Check) :
    (runner.runCheck check).context = runner.context ∧
      (runner.runCheck check).narrowings = runner.narrowings := by
  have hrun : runner.runChecks [check] = runner.runCheck check := by simp [runChecks]
  obtain ⟨hchecker, hsymbols, hnarrowings⟩ := runChecks_unchanged runner [check]
  rw [hrun] at hchecker hsymbols hnarrowings
  refine ⟨?_, hnarrowings⟩
  unfold context
  rw [hchecker, hsymbols]

/-- The places inside siblings are reached by the siblings' own turns of the way. -/
theorem place_of_mem_moments {runner : Runner} {parent : List Nat} {index : Nat}
    {checks : List Check} {moment : Moment} (h : moment ∈ runner.moments parent index checks) :
    moment.place = parent ∨
      ∃ index' rest, index ≤ index' ∧ moment.place = parent ++ index' :: rest := by
  induction checks using Check.forest_induction generalizing runner parent index with
  | nil =>
    rw [moments, List.mem_singleton] at h
    exact .inl (by rw [h])
  | cons check rest ihGuarded ihRest =>
    rcases mem_moments_cons h with ⟨hplace, _⟩ | ⟨narrowing, _, hinside⟩ | hrest
    · exact .inl hplace
    · rcases ihGuarded hinside with hplace | ⟨next, further, _, hplace⟩
      · exact .inr ⟨index, [], Nat.le_refl index, hplace⟩
      · exact .inr ⟨index, next :: further, Nat.le_refl index, by simpa using hplace⟩
    · rcases ihRest hrest with hplace | ⟨index', further, hle, hplace⟩
      · exact .inl hplace
      · exact .inr ⟨index', further, by omega, hplace⟩

/-- All states in the course of checks have the same rules and symbols. -/
theorem context_of_mem_moments {runner : Runner} {parent : List Nat} {index : Nat}
    {checks : List Check} {moment : Moment} (h : moment ∈ runner.moments parent index checks) :
    moment.runner.context = runner.context := by
  induction checks using Check.forest_induction generalizing runner parent index with
  | nil =>
    rw [moments, List.mem_singleton] at h
    rw [h]
  | cons check rest ihGuarded ihRest =>
    rcases mem_moments_cons h with ⟨_, hcontext, _⟩ | ⟨narrowing, _, hinside⟩ | hrest
    · exact hcontext
    · rw [ihGuarded hinside, context_push, context_announce]
    · rw [ihRest hrest, (runCheck_unchanged runner check).1]

end Runner

/-- The symbol that an accepted check narrows, and the type that it narrows it to: for a test of a
symbol, the symbol and what the target stands for. -/
def Check.narrowing? : Check → Option (String × Ty)
  | .test subject target _ =>
    match subject.symbol?, target.resolve with
    | some name, .ok type => some (name, type)
    | _, _ => none
  | .assign .. | .access .. => none

/-- An accepted check narrows what it names. -/
theorem Context.narrowing?_of_judge {context : Context} {scope : Scope} {check : Check}
    {narrowing : Option (String × Ty)} (h : context.judge scope check = .ok narrowing) :
    check.narrowing? = narrowing := by
  cases check with
  | assign name value => exact (judge_assign_eq_ok_iff.mp h).1.symm
  | access subject field => exact (judge_access_eq_ok_iff.mp h).1.symm
  | test subject target guarded =>
    obtain ⟨_, narrowed, _, htarget, _, rfl⟩ := judge_test_eq_ok_iff.mp h
    cases hsymbol : subject.symbol? <;> simp [Check.narrowing?, hsymbol, htarget]

/-- The steps whose checks are accepted and are around a place, the outermost first: the way to the
place leads through their checks. -/
def Step.around (place : List Nat) (steps : List Step) : List Step :=
  steps.filter fun step => step.accepted && decide (step.position <+: place)

namespace Step

variable {place : List Nat} {steps : List Step}

/-- Steps to which no beginning of the way leads are not around the place. -/
theorem around_eq_nil (h : ∀ step ∈ steps, ¬ step.position <+: place) :
    around place steps = [] := by
  rw [around, List.filter_eq_nil_iff]
  intro step hstep
  simp [h step hstep]

theorem around_append (place : List Nat) (steps steps' : List Step) :
    around place (steps ++ steps') = around place steps ++ around place steps' :=
  List.filter_append ..

end Step

/-- A way does not begin with another one that takes another turn. -/
theorem not_isPrefix_of_turn_ne {parent rest rest' : List Nat} {index index' : Nat}
    (hne : index ≠ index') : ¬ parent ++ index :: rest <+: parent ++ index' :: rest' := by
  rw [List.prefix_append_right_inj, List.cons_prefix_cons]
  exact fun h => hne h.1

/-- A way does not begin with one that goes on from it. -/
theorem not_isPrefix_of_longer {parent rest : List Nat} {index : Nat} :
    ¬ parent ++ index :: rest <+: parent := by
  intro h
  have hlength := h.length_le
  rw [List.length_append, List.length_cons] at hlength
  omega

namespace Runner

variable {runner : Runner} {parent : List Nat} {index : Nat} {checks : List Check}

/-- The steps of siblings stand at the siblings' own turns of the way. -/
theorem position_of_mem_steps {step : Step} (h : step ∈ runner.steps parent index checks) :
    ∃ index' rest, index ≤ index' ∧ step.position = parent ++ index' :: rest := by
  have hvisit : step.visit ∈ runner.context.visits runner.scope parent index checks := by
    rw [← (steps_visits runner parent index checks).1]
    exact List.mem_map_of_mem h
  exact Context.position_of_mem_visits hvisit

/-- The steps inside a check stand at its own turn of the way. -/
theorem position_of_mem_stepsInside {check : Check} {step : Step}
    (h : step ∈ runner.stepsInside (parent ++ [index]) check) :
    ∃ rest, step.position = parent ++ index :: rest := by
  unfold stepsInside at h
  cases hjudge : runner.judge check with
  | error failure => simp [hjudge] at h
  | ok narrowing =>
    rw [hjudge] at h
    obtain ⟨next, further, _, hposition⟩ := position_of_mem_steps h
    exact ⟨next :: further, by simpa using hposition⟩

/-- No step of siblings is around a place outside of them all. -/
theorem around_parent (runner : Runner) (parent : List Nat) (index : Nat) (checks : List Check) :
    Step.around parent (runner.steps parent index checks) = [] := by
  apply Step.around_eq_nil
  intro step hstep
  obtain ⟨index', rest, _, hposition⟩ := position_of_mem_steps hstep
  rw [hposition]
  exact not_isPrefix_of_longer

/-- No step of later siblings is around a place inside an earlier one. -/
theorem around_later (runner : Runner) (parent : List Nat) (index : Nat) (checks : List Check)
    (further : List Nat) :
    Step.around (parent ++ index :: further) (runner.steps parent (index + 1) checks) = [] := by
  apply Step.around_eq_nil
  intro step hstep
  obtain ⟨index', rest, hle, hposition⟩ := position_of_mem_steps hstep
  rw [hposition]
  exact not_isPrefix_of_turn_ne (by omega)

/-- Around a place inside an accepted check stand the check itself and, inside it, what is around
the place there. No later sibling is. -/
theorem around_cons_of_inside {check : Check} {narrowing : Option (String × Ty)}
    (hjudge : runner.judge check = .ok narrowing) (further : List Nat) :
    Step.around (parent ++ index :: further) (runner.steps parent index (check :: checks)) =
      ⟨parent ++ [index], runner, check⟩ :: Step.around (parent ++ index :: further)
        (((runner.announce check).push narrowing).steps (parent ++ [index]) 0 check.guarded) := by
  have haccepted : (⟨parent ++ [index], runner, check⟩ : Step).accepted = true :=
    Step.accepted_eq_true_iff.mpr ⟨narrowing, hjudge⟩
  have hown : parent ++ [index] <+: parent ++ index :: further := ⟨further, by simp⟩
  rw [steps_cons, Step.around, List.filter_cons_of_pos (by simp [haccepted, hown]),
    ← Step.around, Step.around_append, around_later, List.append_nil, stepsInside, hjudge]

/-- Around a place inside a rejected check stands no step at all. -/
theorem around_cons_of_error {check : Check} {failure : Failure}
    (hjudge : runner.judge check = .error failure) (further : List Nat) :
    Step.around (parent ++ index :: further) (runner.steps parent index (check :: checks)) =
      [] := by
  have hrejected : (⟨parent ++ [index], runner, check⟩ : Step).accepted = false := by
    simp [Step.accepted, hjudge, Except.isOk, Except.toBool]
  have hinside : runner.stepsInside (parent ++ [index]) check = [] := by
    simp only [stepsInside, hjudge]
  rw [steps_cons, Step.around, List.filter_cons_of_neg (by simp [hrejected]), ← Step.around,
    hinside, List.nil_append, around_later]

/-- Around a place to which no way through a check leads stands neither the check nor any step
inside it. -/
theorem around_cons_of_outside {check : Check} {place : List Nat}
    (hnot : ∀ further, ¬ parent ++ index :: further <+: place) :
    Step.around place (runner.steps parent index (check :: checks)) =
      Step.around place ((runner.runCheck check).steps parent (index + 1) checks) := by
  have hinside : Step.around place (runner.stepsInside (parent ++ [index]) check) = [] := by
    apply Step.around_eq_nil
    intro step hstep
    obtain ⟨further, hposition⟩ := position_of_mem_stepsInside hstep
    rw [hposition]
    exact hnot further
  rw [steps_cons, Step.around, List.filter_cons_of_neg (by simp [hnot []]), ← Step.around,
    Step.around_append, hinside, List.nil_append]

/-- In the course of checks, the narrowings in force are those of the accepted checks around the
moment, on top of those that were in force before. -/
theorem narrowings_of_mem_moments {moment : Moment}
    (h : moment ∈ runner.moments parent index checks) :
    moment.runner.narrowings =
      ((Step.around moment.place (runner.steps parent index checks)).filterMap
        fun step => step.check.narrowing?).reverse ++ runner.narrowings := by
  -- The induction follows the way to the moment: a moment inside the first check is not inside any
  -- other sibling, and a moment inside a later one is not inside the first.
  induction checks using Check.forest_induction generalizing runner parent index with
  | nil =>
    rw [moments, List.mem_singleton] at h
    rw [h]
    simp [Step.around]
  | cons check rest ihGuarded ihRest =>
    rcases mem_moments_cons h with ⟨hplace, _, hnarrowings⟩ | ⟨narrowing, hjudge, hinside⟩ | hrest
    · rw [hnarrowings, hplace, around_parent]
      rfl
    · have hway : ∃ further, moment.place = parent ++ index :: further := by
        rcases place_of_mem_moments hinside with hplace | ⟨next, further, _, hplace⟩
        · exact ⟨[], hplace⟩
        · exact ⟨next :: further, by simpa using hplace⟩
      obtain ⟨further, hplace⟩ := hway
      have hown : check.narrowing? = narrowing :=
        Context.narrowing?_of_judge ((judge_eq runner check).symm.trans hjudge)
      rw [ihGuarded hinside, hplace, around_cons_of_inside hjudge]
      cases narrowing <;> simp [hown, push, announce, addRecords]
    · have hnot : ∀ further, ¬ parent ++ index :: further <+: moment.place := by
        intro further
        rcases place_of_mem_moments hrest with hplace | ⟨index', rest', hle, hplace⟩
        · rw [hplace]
          exact not_isPrefix_of_longer
        · rw [hplace]
          exact not_isPrefix_of_turn_ne (by omega)
      rw [ihRest hrest, around_cons_of_outside hnot, (runCheck_unchanged runner check).2]

/-- A runner that is about to make a check is in one of the states. -/
theorem mem_moments_of_mem_steps {step : Step} (h : step ∈ runner.steps parent index checks) :
    ⟨step.position.dropLast, step.runner⟩ ∈ runner.moments parent index checks := by
  induction checks using Check.forest_induction generalizing runner parent index with
  | nil => simp at h
  | cons check rest ihGuarded ihRest =>
    rw [steps_cons, List.mem_cons, List.mem_append] at h
    rw [moments, List.mem_cons, List.mem_append]
    rcases h with rfl | hinside | hrest
    · exact .inl (by simp)
    · refine .inr (.inl ?_)
      unfold stepsInside at hinside
      cases hjudge : runner.judge check with
      | error failure => simp [hjudge] at hinside
      | ok narrowing =>
        rw [hjudge] at hinside
        have hmoment := ihGuarded hinside
        cases check with
        | assign name value => simp [Check.guarded] at hinside
        | access subject field => simp [Check.guarded] at hinside
        | test subject target guarded =>
          rw [judge_test] at hjudge
          cases hverdict : runner.judgeTest subject target with
          | error failure => simp [hverdict, Except.map] at hjudge
          | ok type =>
            obtain rfl : (subject.symbol?.map fun name => (name, type)) = narrowing := by
              simpa [hverdict, Except.map] using hjudge
            rw [← enter_eq_push] at hmoment
            rw [momentsFrom, List.mem_cons, hverdict]
            exact .inr hmoment
    · exact .inr (.inr (ihRest hrest))

/-- Declarations take no symbol away. -/
theorem symbols_subset_foldl_declare (runner : Runner) (declarations : List Declaration) :
    runner.symbols.toList ⊆ (declarations.foldl declare runner).symbols.toList := by
  induction declarations generalizing runner with
  | nil => exact List.Subset.refl _
  | cons declaration rest ih =>
    rw [List.foldl_cons]
    refine List.Subset.trans ?_ (ih (runner.declare declaration))
    cases henlist : runner.enlist declaration with
    | error failure =>
      rw [declare_of_error henlist]
      exact List.Subset.refl _
    | ok result =>
      obtain ⟨_, _, _, hsymbols⟩ := exists_symbol_of_enlist henlist
      rw [hsymbols]
      exact List.subset_append_left ..

/-- A declaration that succeeds declares its name. -/
theorem exists_symbol_of_declarationVerdict {runner : Runner} {declarations : List Declaration}
    {index : Nat} {declaration : Declaration}
    (hdeclaration : declarations[index]? = some declaration)
    (hverdict : (runner.declarationVerdicts declarations)[index]? = some true) :
    ∃ symbol ∈ (declarations.foldl declare runner).symbols.toList,
      symbol.name = declaration.name := by
  induction declarations generalizing runner index with
  | nil => simp at hdeclaration
  | cons first rest ih =>
    rw [List.foldl_cons]
    cases index with
    | succ index => exact ih hdeclaration hverdict
    | zero =>
      obtain rfl : first = declaration := by simpa using hdeclaration
      cases henlist : runner.enlist first with
      | error failure => simp [declarationVerdicts, henlist, Except.isOk, Except.toBool] at hverdict
      | ok result =>
        obtain ⟨symbol, hname, _, hsymbols⟩ := exists_symbol_of_enlist henlist
        refine ⟨symbol, symbols_subset_foldl_declare _ rest ?_, hname.symm⟩
        rw [hsymbols]
        exact List.mem_append_right _ (List.mem_singleton.mpr rfl)

theorem length_declarationVerdicts (runner : Runner) (declarations : List Declaration) :
    (runner.declarationVerdicts declarations).length = declarations.length := by
  induction declarations generalizing runner with
  | nil => rfl
  | cons declaration rest ih => simp [declarationVerdicts, ih]

end Runner

namespace Script

/-- The states that a script goes through: those between its declarations, and those of its
checks. -/
def moments (script : Script) (override : Option Config) : List Moment :=
  (script.declarations.inits.map fun declared =>
    ⟨[], declared.foldl Runner.declare (script.start override)⟩) ++
  (script.ready override).moments [] 0 script.checks

/-- What holds whenever a script is run. -/
structure SoundAt (script : Script) (override : Option Config) (moment : Moment) : Prop where
  /-- The declared types have no empty unions in them. -/
  symbols : ∀ symbol ∈ moment.runner.symbols.toList, symbol.type.Populated
  /-- The narrowed types have no empty unions in them. -/
  narrowings : ∀ name type, (name, type) ∈ moment.runner.narrowings → type.Populated
  /-- The narrowed symbols are declared. -/
  declared : ∀ name type, (name, type) ∈ moment.runner.narrowings →
    ∃ symbol, moment.runner.symbols.resolve name = .ok symbol
  /-- From its bottom to its top, the stack holds what the accepted checks around the moment narrow,
  from the outermost to the innermost. -/
  stack : moment.runner.narrowings.reverse =
    (Step.around moment.place (script.steps override)).filterMap fun step => step.check.narrowing?

variable {script : Script} {override : Option Config}

/-- The symbols of a script have types without empty unions, whenever one looks. -/
theorem populated_of_mem_symbols {declared : List Declaration} {symbol : Symbol}
    (h : symbol ∈ (declared.foldl Runner.declare (script.start override)).symbols.toList) :
    symbol.type.Populated := by
  rcases Runner.mem_symbols_foldl_declare h with hstart | ⟨declaration, _, _, hresolve⟩
  · cases hstart
  · exact TypeRef.populated_of_resolve hresolve

/-- What an accepted check of a script narrows is a declared symbol, and it narrows it to a type
without empty unions. -/
theorem sound_of_narrowing? {step : Step} (hstep : step ∈ script.steps override)
    (haccepted : step.accepted = true) {name : String} {type : Ty}
    (hnarrowing : step.check.narrowing? = some (name, type)) :
    type.Populated ∧ ∃ symbol, (script.ready override).symbols.resolve name = .ok symbol := by
  constructor
  · cases hcheck : step.check with
    | assign name' value => simp [hcheck, Check.narrowing?] at hnarrowing
    | access subject field => simp [hcheck, Check.narrowing?] at hnarrowing
    | test subject target guarded =>
      rw [hcheck] at hnarrowing
      cases hsymbol : subject.symbol? <;> cases htarget : target.resolve <;>
        simp [Check.narrowing?, hsymbol, htarget] at hnarrowing
      rw [← hnarrowing.2]
      exact TypeRef.populated_of_resolve htarget
  · obtain ⟨narrowing, hjudge⟩ := Step.accepted_eq_true_iff.mp haccepted
    rw [Runner.judge_eq, (Runner.steps_visits (script.ready override) [] 0 script.checks).2 step
      hstep] at hjudge
    rw [Context.narrowing?_of_judge hjudge] at hnarrowing
    rw [hnarrowing] at hjudge
    obtain ⟨current, hcurrent, _⟩ := Context.admits_of_judge hjudge
    rcases Context.currentType_eq_ok_iff.mp hcurrent with hscope | ⟨_, symbol, hsymbol, _⟩
    · exact Context.exists_symbol_of_scope (fun name => scope_ready script override name)
        (visit_mem_visits hstep) hscope
    · exact ⟨symbol, hsymbol⟩

/-- Before the first check, no narrowing is in force. -/
theorem narrowings_declare (script : Script) (override : Option Config)
    (declared : List Declaration) :
    (declared.foldl Runner.declare (script.start override)).narrowings = [] :=
  (Runner.foldl_declare_unchanged (script.start override) declared).2

/-- A script is sound at all of its moments. -/
theorem soundAt_of_mem_moments {moment : Moment} (h : moment ∈ script.moments override) :
    script.SoundAt override moment := by
  rcases List.mem_append.mp h with hdeclaring | hchecking
  · obtain ⟨declared, _, rfl⟩ := List.mem_map.mp hdeclaring
    have hnone := narrowings_declare script override declared
    refine ⟨fun symbol hsymbol => populated_of_mem_symbols hsymbol, ?_, ?_, ?_⟩
    · simp [hnone]
    · simp [hnone]
    · rw [hnone, steps, Runner.around_parent]
      rfl
  · have hcontext : moment.runner.context = (script.ready override).context :=
      Runner.context_of_mem_moments hchecking
    have hsymbols : moment.runner.symbols = (script.ready override).symbols :=
      congrArg Context.symbols hcontext
    have hstack : moment.runner.narrowings.reverse =
        (Step.around moment.place (script.steps override)).filterMap
          fun step => step.check.narrowing? := by
      rw [Runner.narrowings_of_mem_moments hchecking, ready, narrowings_declare, List.append_nil,
        List.reverse_reverse]
      rfl
    have hentry : ∀ name type, (name, type) ∈ moment.runner.narrowings → type.Populated ∧
        ∃ symbol, moment.runner.symbols.resolve name = .ok symbol := by
      intro name type hmem
      rw [← List.mem_reverse, hstack, List.mem_filterMap] at hmem
      obtain ⟨step, haround, hnarrowing⟩ := hmem
      obtain ⟨hstep, haccepted⟩ := List.mem_filter.mp haround
      rw [hsymbols]
      exact sound_of_narrowing? hstep (Bool.and_eq_true_iff.mp haccepted).1 hnarrowing
    refine ⟨fun symbol hsymbol => ?_, fun name type hmem => (hentry name type hmem).1,
      fun name type hmem => (hentry name type hmem).2, hstack⟩
    rw [hsymbols] at hsymbol
    exact populated_of_mem_symbols hsymbol

/-- A check that fails because of an undeclared symbol names a symbol of which all declarations have
failed. -/
theorem undeclared_of_kind {step : Step} (hstep : step ∈ script.steps override) {failure : Failure}
    (hjudge : step.runner.judge step.check = .error failure)
    (hkind : failure.kind = "undefined-symbol") :
    ∃ name ∈ step.check.ownNames, failure = .undefinedSymbol name ∧
      ∀ (index : Nat) (declaration : Declaration), script.declarations[index]? = some declaration →
        declaration.name = name →
          (script.declarationVerdicts override)[index]? = some false := by
  rw [Runner.judge_eq, (Runner.steps_visits (script.ready override) [] 0 script.checks).2 step
    hstep] at hjudge
  cases Context.failsFor_of_judge hjudge with
  | reference => simp [Failure.emptyUnion, Failure.kind] at hkind
  | subject message => simp [Failure.kind] at hkind
  | @rule error _ => cases error <;> simp [RuleError.kind_toFailure, RuleError.kind] at hkind
  | @undeclared name hname hsymbol =>
    refine ⟨name, hname, rfl, fun index declaration hdeclaration hdeclared => ?_⟩
    obtain ⟨_, hnone⟩ := SymbolTable.resolve_eq_error_iff.mp hsymbol
    have hindex : index < (script.declarationVerdicts override).length := by
      rw [declarationVerdicts, Runner.length_declarationVerdicts]
      exact (List.getElem?_eq_some_iff.mp hdeclaration).1
    rw [List.getElem?_eq_getElem hindex, Option.some.injEq]
    cases hverdict : (script.declarationVerdicts override)[index] with
    | false => rfl
    | true =>
      obtain ⟨symbol, hmem, hsymbolName⟩ := Runner.exists_symbol_of_declarationVerdict hdeclaration
        (List.getElem?_eq_some_iff.mpr ⟨hindex, hverdict⟩)
      exact absurd (hsymbolName.trans hdeclared) (hnone symbol hmem)

/-- The states of a script begin with its first runner and end with its last one, and all of its
steps start from them. At each of them, no type in the table or on the stack has an empty union in
it, the narrowed symbols are declared, and the stack spells out the accepted checks around the
place. So a symbol is undefined for a check only if all declarations of it have failed, whatever
tests there are around the check. -/
theorem soundAt_moments (script : Script) (override : Option Config) :
    (script.moments override).head? = some ⟨[], script.start override⟩ ∧
      (script.moments override).getLast? = some ⟨[], script.run override⟩ ∧
      (∀ step ∈ script.steps override,
        ⟨step.position.dropLast, step.runner⟩ ∈ script.moments override) ∧
      (∀ moment ∈ script.moments override, script.SoundAt override moment) ∧
      ∀ step ∈ script.steps override, ∀ failure,
        step.runner.judge step.check = .error failure → failure.kind = "undefined-symbol" →
          ∃ name ∈ step.check.ownNames, failure = .undefinedSymbol name ∧
            ∀ (index : Nat) (declaration : Declaration),
              script.declarations[index]? = some declaration → declaration.name = name →
                (script.declarationVerdicts override)[index]? = some false := by
  refine ⟨?_, ?_, fun step hstep => ?_, fun _ => soundAt_of_mem_moments,
    fun _ hstep _ => undeclared_of_kind hstep⟩
  · cases hdeclarations : script.declarations <;> simp [moments, hdeclarations]
  · obtain ⟨_, hlast⟩ := Runner.moments_ends (script.ready override) [] 0 script.checks
    rw [moments, List.getLast?_append, hlast, run_eq]
    rfl
  · exact List.mem_append_right _ (Runner.mem_moments_of_mem_steps hstep)

/-- A script that narrows a symbol twice and asks for an undeclared one inside. -/
def deepening : Script where
  declarations :=
    [⟨"x", .union [.named "int", .union [.named "a", .named "b"]]⟩, ⟨"y", .union []⟩]
  checks :=
    [.test { symbol? := some "x" } (.union [.named "a", .named "b"])
      [.test { symbol? := some "x" } (.named "a") [.access { symbol? := some "y" } "f"]]]

/-- In the innermost branch both narrowings of the symbol are on the stack, and the only declaration
of the other symbol has failed. -/
theorem deepening_soundAt :
    (∃ step ∈ deepening.steps none, step.position = [0, 0, 0] ∧
      step.runner.narrowings.reverse =
        [("x", .union [.nominal "a", .nominal "b"]), ("x", .nominal "a")] ∧
      deepening.SoundAt none ⟨[0, 0], step.runner⟩ ∧
      step.runner.judge step.check = .error (.undefinedSymbol "y") ∧
      ∃ name ∈ step.check.ownNames, Failure.undefinedSymbol "y" = .undefinedSymbol name ∧
        ∀ (index : Nat) (declaration : Declaration),
          deepening.declarations[index]? = some declaration → declaration.name = name →
            (deepening.declarationVerdicts none)[index]? = some false) ∧
    deepening.declarationVerdicts none = [true, false] := by
  obtain ⟨_, _, hsteps, hsound, hundeclared⟩ := soundAt_moments deepening none
  have hindex : 2 < (deepening.steps none).length := by decide
  have hmem : (deepening.steps none)[2] ∈ deepening.steps none := List.getElem_mem hindex
  exact ⟨⟨_, hmem, rfl, rfl, hsound _ (hsteps _ hmem), rfl, hundeclared _ hmem _ rfl rfl⟩, rfl⟩

end Script

end Narrowing
