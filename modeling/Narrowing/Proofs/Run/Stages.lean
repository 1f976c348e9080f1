import Mathlib.Data.List.Chain
import Narrowing.Proofs.Rules.Settings
import Narrowing.Proofs.Run.Moments

/-!
# The stages of a symbol

On the way to a place inside nested tests, a symbol goes through stages: its declared type comes
first, and each accepted test of the symbol leads to the next one, which the stage before it admits.
In structural mode a union admits only what occurs in it, and what occurs in a union does not go as
deep. So the unions among the stages descend, and there are no more of them than the declared type
is deep.
-/

namespace Narrowing

namespace Checker

variable {checker : Checker}

/-- In structural mode a union admits what occurs in it, and nothing else. -/
theorem admits_union_iff (hmode : checker.config.unionEquality = .structural) {members : List Ty}
    {type : Ty} :
    checker.admits (.union members) type = true ↔ type.OccursIn (.union members) := by
  simp only [admits, contains, typesEqual, hmode, UnionEquality.typesEqual, List.any_eq_true]
  constructor
  · rintro ⟨member, hmember, heq⟩
    exact ⟨member, ⟨members, rfl, hmember⟩, heq⟩
  · rintro ⟨member, ⟨_, hunion, hmember⟩, heq⟩
    cases hunion
    exact ⟨member, hmember, heq⟩

/-- In structural mode a union does not admit what is equal to itself. -/
theorem admits_union_self (hmode : checker.config.unionEquality = .structural) {members : List Ty}
    {type : Ty} (h : (Ty.union members).eqStructure type = true) :
    checker.admits (.union members) type = false := by
  rw [Bool.eq_false_iff]
  intro hadmits
  have hlt : type.depth < (Ty.union members).depth :=
    Ty.depth_lt_of_occursIn ((admits_union_iff hmode).mp hadmits)
  have heq : (Ty.union members).depth = type.depth := Ty.depth_eq_of_eqStructure h
  omega

/-- So a value that is equal to the declared union of a symbol cannot be assigned to the symbol. -/
theorem checkAssignment_union_self (hmode : checker.config.unionEquality = .structural)
    {symbol : Symbol} {members : List Ty} {value : Ty} (hunion : symbol.type = .union members)
    (h : symbol.type.eqStructure value = true) :
    checker.checkAssignment symbol value = .error (.unionMemberMismatch symbol.name value) := by
  obtain ⟨name, type⟩ := symbol
  obtain rfl : type = .union members := hunion
  have hadmits : checker.admits (.union members) value = false := admits_union_self hmode h
  simp [checkAssignment, hadmits]

/-- Nor is a union narrowed to what is equal to it. -/
theorem checkTest_union_self (hmode : checker.config.unionEquality = .structural)
    {members : List Ty} {target : Ty} (h : (Ty.union members).eqStructure target = true) :
    checker.checkTest (.union members) target = .error (.invalidNarrowing target) := by
  have hadmits : checker.admits (.union members) target = false := admits_union_self hmode h
  simp [checkTest, hadmits]

end Checker

/-- A union that follows on another type does not go as deep, and no other type goes deeper. -/
def Ty.DescendsTo (outer inner : Ty) : Prop :=
  inner.depth ≤ outer.depth ∧ (inner.isUnion = true → inner.depth < outer.depth)

theorem Ty.DescendsTo.trans {outer between inner : Ty} (h : outer.DescendsTo between)
    (h' : between.DescendsTo inner) : outer.DescendsTo inner := by
  obtain ⟨hle, _⟩ := h
  obtain ⟨hle', hlt'⟩ := h'
  refine ⟨Nat.le_trans hle' hle, fun hunion => ?_⟩
  have hlt := hlt' hunion
  omega

instance : Trans Ty.DescendsTo Ty.DescendsTo Ty.DescendsTo := ⟨Ty.DescendsTo.trans⟩

/-- In structural mode types descend to what they admit. A nominal type admits only itself, which is
no union. -/
theorem Checker.descendsTo_of_admits {checker : Checker}
    (hmode : checker.config.unionEquality = .structural) {outer inner : Ty}
    (h : checker.admits outer inner = true) : outer.DescendsTo inner := by
  cases outer with
  | nominal name =>
    have heq : (Ty.nominal name).eqStructure inner = true := by
      simpa [admits, typesEqual, UnionEquality.typesEqual, hmode] using h
    rw [Ty.eq_nominal_of_eqStructure heq]
    refine ⟨Nat.le_refl _, fun hunion => ?_⟩
    rw [Ty.isUnion_nominal] at hunion
    exact absurd hunion Bool.false_ne_true
  | union members =>
    have hlt : inner.depth < (Ty.union members).depth :=
      Ty.depth_lt_of_occursIn ((admits_union_iff hmode).mp h)
    exact ⟨Nat.le_of_lt hlt, fun _ => hlt⟩

/-- There are no more unions of descending depths than the depth that they start from. -/
theorem Ty.length_le_of_descending {unions : List Ty} {bound : Nat}
    (hunions : ∀ type ∈ unions, type.isUnion = true) (hbound : ∀ type ∈ unions, type.depth ≤ bound)
    (hdescending : unions.Pairwise fun outer inner => inner.depth < outer.depth) :
    unions.length ≤ bound := by
  induction unions generalizing bound with
  | nil => exact Nat.zero_le bound
  | cons type rest ih =>
    obtain ⟨hunion, hunions⟩ := List.forall_mem_cons.mp hunions
    obtain ⟨hdepth, _⟩ := List.forall_mem_cons.mp hbound
    obtain ⟨hlater, hdescending⟩ := List.pairwise_cons.mp hdescending
    have hpositive : 0 < type.depth := by
      cases type with
      | nominal name => cases hunion
      | union members => simp
    have hrest : rest.length ≤ type.depth - 1 := by
      refine ih hunions (fun later hmem => ?_) hdescending
      have hlt := hlater later hmem
      omega
    rw [List.length_cons]
    omega

/-- The stages of a symbol under narrowings of which each is inside the ones before it: the declared
type, and then the types that the symbol is narrowed to. -/
def Symbol.stages (symbol : Symbol) (narrowings : List (String × Ty)) : List Ty :=
  symbol.type :: (narrowings.filter (·.1 == symbol.name)).map Prod.snd

/-- The stages of a symbol on the way to a place: its declared type, and then what the accepted
tests of it around the place narrow it to, the outermost first. -/
def Script.stages (script : Script) (override : Option Config) (symbol : Symbol)
    (place : List Nat) : List Ty :=
  symbol.stages ((Step.around place (script.steps override)).filterMap fun step =>
    step.check.narrowing?)

/-- What a name leads to is what the first entry for it says. -/
theorem lookup_eq_head? (narrowings : List (String × Ty)) (name : String) :
    narrowings.lookup name = ((narrowings.filter (·.1 == name)).map Prod.snd).head? := by
  induction narrowings with
  | nil => rfl
  | cons entry rest ih =>
    obtain ⟨name', type⟩ := entry
    by_cases hname : name' = name
    · simp [hname]
    · have hname' : (name == name') = false := beq_eq_false_iff_ne.mpr (Ne.symm hname)
      simp [List.lookup_cons, hname, hname', ih]

namespace Symbol

/-- The last stage of a symbol is its innermost narrowing, or its declared type if it has none. -/
theorem getLast?_stages (symbol : Symbol) (narrowings : List (String × Ty)) :
    (symbol.stages narrowings).getLast? =
      some ((narrowings.reverse.lookup symbol.name).getD symbol.type) := by
  rw [stages, List.getLast?_cons, lookup_eq_head?, List.filter_reverse, List.map_reverse,
    List.head?_reverse]

/-- A further narrowing of a symbol is a further stage. -/
theorem stages_append_own (symbol : Symbol) (narrowings : List (String × Ty)) (type : Ty) :
    symbol.stages (narrowings ++ [(symbol.name, type)]) = symbol.stages narrowings ++ [type] := by
  simp [stages]

/-- A narrowing of another symbol is not. -/
theorem stages_append_other {symbol : Symbol} {name : String} (hname : name ≠ symbol.name)
    (narrowings : List (String × Ty)) (type : Ty) :
    symbol.stages (narrowings ++ [(name, type)]) = symbol.stages narrowings := by
  simp [stages, hname]

end Symbol

/-- Every stage of a declared symbol under the narrowings, which come one inside the other, is
admitted by the stage before it. -/
def Context.Chained (context : Context) (narrowings : List (String × Ty)) : Prop :=
  ∀ symbol, context.symbols.resolve symbol.name = .ok symbol →
    (symbol.stages narrowings).IsChain fun outer inner => context.checker.admits outer inner = true

/-- Before any narrowing, a symbol has one stage. -/
theorem Context.chained_nil (context : Context) : context.Chained [] :=
  fun symbol _ => List.isChain_singleton symbol.type

namespace Runner

variable {runner : Runner}

/-- The narrowing that an accepted check puts in force leads its symbol to a stage that the current
type admits. -/
theorem chained_push (h : runner.context.Chained runner.narrowings.reverse) {check : Check}
    {narrowing : Option (String × Ty)} (hjudge : runner.judge check = .ok narrowing) :
    runner.context.Chained (runner.narrowings.reverse ++ narrowing.toList) := by
  cases narrowing with
  | none => simpa using h
  | some entry =>
    obtain ⟨name, type⟩ := entry
    intro symbol hsymbol
    rw [Option.toList_some]
    by_cases hname : name = symbol.name
    · subst hname
      rw [judge_eq] at hjudge
      obtain ⟨current, hcurrent, hadmits⟩ := Context.admits_of_judge hjudge
      have hlast : (symbol.stages runner.narrowings.reverse).getLast? = some current := by
        rw [Symbol.getLast?_stages, List.reverse_reverse]
        rcases Context.currentType_eq_ok_iff.mp hcurrent with
          hnarrowed | ⟨hfree, declared, hdeclared, rfl⟩
        · have hlookup : runner.narrowings.lookup symbol.name = some current := hnarrowed
          rw [hlookup, Option.getD_some]
        · have hlookup : runner.narrowings.lookup symbol.name = none := hfree
          obtain rfl : symbol = declared := by simpa [hsymbol] using hdeclared
          rw [hlookup, Option.getD_none]
      rw [Symbol.stages_append_own]
      refine List.isChain_append.mpr ⟨h symbol hsymbol, List.isChain_singleton type, ?_⟩
      intro outer houter inner hinner
      rw [hlast, Option.mem_some] at houter
      rw [List.head?_cons, Option.mem_some] at hinner
      rw [← houter, ← hinner]
      exact hadmits
    · rw [Symbol.stages_append_other hname]
      exact h symbol hsymbol

/-- The accepted checks around a place lead every symbol from stage to stage, each of which admits
the next one. The induction follows the way to the place; a rejected check ends it. -/
theorem chained_around (parent : List Nat) (index : Nat) (checks : List Check)
    (h : runner.context.Chained runner.narrowings.reverse) (place : List Nat) :
    runner.context.Chained (runner.narrowings.reverse ++
      (Step.around place (runner.steps parent index checks)).filterMap fun step =>
        step.check.narrowing?) := by
  induction checks using Check.forest_induction generalizing runner parent index with
  | nil => simpa [Step.around] using h
  | cons check rest ihGuarded ihRest =>
    by_cases hway : ∃ further, place = parent ++ index :: further
    · obtain ⟨further, rfl⟩ := hway
      cases hjudge : runner.judge check with
      | error failure =>
        rw [around_cons_of_error hjudge]
        simpa using h
      | ok narrowing =>
        have hown : check.narrowing? = narrowing :=
          Context.narrowing?_of_judge ((judge_eq runner check).symm.trans hjudge)
        have hpushed : ((runner.announce check).push narrowing).narrowings.reverse =
            runner.narrowings.reverse ++ narrowing.toList := by
          cases narrowing <;> simp [push, announce, addRecords]
        have hchain : ((runner.announce check).push narrowing).context.Chained
            ((runner.announce check).push narrowing).narrowings.reverse := by
          rw [hpushed]
          exact chained_push h hjudge
        have hinside := ihGuarded (parent ++ [index]) 0 hchain
        rw [hpushed, List.append_assoc] at hinside
        rw [around_cons_of_inside hjudge]
        cases narrowing with
        | none => simpa [hown] using hinside
        | some entry => simpa [hown] using hinside
    · have hnot : ∀ further, ¬ parent ++ index :: further <+: place := by
        rintro further ⟨rest', rfl⟩
        exact hway ⟨further ++ rest', by simp⟩
      obtain ⟨hcontext, hnarrowings⟩ := runCheck_unchanged runner check
      have hchain : (runner.runCheck check).context.Chained
          (runner.runCheck check).narrowings.reverse := by
        rw [hcontext, hnarrowings]
        exact h
      have hrest := ihRest parent (index + 1) hchain
      rw [hcontext, hnarrowings] at hrest
      rw [around_cons_of_outside hnot]
      exact hrest

end Runner

/-- In structural mode the unions among the stages of a declared symbol descend, and there are no
more of them than the declared type is deep. -/
theorem Context.unions_of_chained {context : Context} {narrowings : List (String × Ty)}
    {symbol : Symbol} (hmode : context.checker.config.unionEquality = .structural)
    (h : context.Chained narrowings)
    (hsymbol : context.symbols.resolve symbol.name = .ok symbol) :
    ((symbol.stages narrowings).filter Ty.isUnion).Pairwise
        (fun outer inner => inner.depth < outer.depth) ∧
      ((symbol.stages narrowings).filter Ty.isUnion).length ≤ symbol.type.depth := by
  have hchain : (symbol.stages narrowings).IsChain Ty.DescendsTo :=
    (h symbol hsymbol).imp fun _ _ hadmits => Checker.descendsTo_of_admits hmode hadmits
  have hpairwise : (symbol.stages narrowings).Pairwise Ty.DescendsTo :=
    List.isChain_iff_pairwise.mp hchain
  have hunions : ∀ type ∈ (symbol.stages narrowings).filter Ty.isUnion, type.isUnion = true :=
    fun type hmem => (List.mem_filter.mp hmem).2
  have hdescending : ((symbol.stages narrowings).filter Ty.isUnion).Pairwise
      (fun outer inner => inner.depth < outer.depth) := by
    refine (hpairwise.filter Ty.isUnion).imp_of_mem ?_
    intro outer inner _ hinner hdescends
    exact hdescends.2 (hunions inner hinner)
  refine ⟨hdescending, Ty.length_le_of_descending hunions (fun type hmem => ?_) hdescending⟩
  rcases List.mem_cons.mp (List.mem_filter.mp hmem).1 with rfl | hlater
  · exact Nat.le_refl _
  · exact ((List.pairwise_cons.mp hpairwise).1 type hlater).1

/-- No union is equal to a member of itself, to a member of a member, and so on. -/
theorem Ty.eqStructure_eq_false_of_transGen {part type : Ty}
    (h : Relation.TransGen Ty.IsMember part type) : part.eqStructure type = false := by
  rw [Bool.eq_false_iff]
  intro heq
  have hlt : part.depth < type.depth := depth_lt_of_transGen h
  have hsame : part.depth = type.depth := depth_eq_of_eqStructure heq
  omega

namespace Script

variable {script : Script} {override : Option Config}

/-- The accepted tests of a script lead every declared symbol from stage to stage. -/
theorem chained_around (script : Script) (override : Option Config) (place : List Nat) :
    (script.ready override).context.Chained
      ((Step.around place (script.steps override)).filterMap
        fun step => step.check.narrowing?) := by
  have hempty : (script.ready override).narrowings = [] :=
    narrowings_declare script override script.declarations
  have hstart : (script.ready override).context.Chained
      (script.ready override).narrowings.reverse := by
    rw [hempty]
    exact Context.chained_nil (script.ready override).context
  have haround := Runner.chained_around [] 0 script.checks hstart place
  rwa [hempty] at haround

/-- In structural mode no two stages of a declared symbol that are unions are equal, and there are
no more of them than the declared type is deep. -/
theorem unions_of_stages (hmode : (override.getD script.config).unionEquality = .structural)
    {name : String} {symbol : Symbol}
    (hsymbol : (script.run override).symbols.resolve name = .ok symbol) (place : List Nat) :
    ((script.stages override symbol place).filter Ty.isUnion).Pairwise
        (fun outer inner => outer.eqStructure inner = false) ∧
      ((script.stages override symbol place).filter Ty.isUnion).length ≤ symbol.type.depth := by
  have hname : symbol.name = name :=
    SymbolTable.name_of_find? (SymbolTable.resolve_eq_ok_iff.mp hsymbol)
  have hresolve : (script.ready override).context.symbols.resolve symbol.name = .ok symbol := by
    rw [hname, ← hsymbol, symbols_run]
    rfl
  have hchecker : (script.ready override).context.checker.config.unionEquality = .structural := by
    change (script.ready override).checker.config.unionEquality = .structural
    rw [checker_ready]
    exact hmode
  obtain ⟨hdescending, hlength⟩ :=
    Context.unions_of_chained hchecker (script.chained_around override place) hresolve
  refine ⟨hdescending.imp fun {outer inner} hlt => ?_, hlength⟩
  rw [Bool.eq_false_iff]
  intro heq
  have hsame : outer.depth = inner.depth := Ty.depth_eq_of_eqStructure heq
  omega

/-- Structural membership is well-founded, and no union is equal to a member of itself, or to a
member of a member, and so on. So in structural mode no value that is equal to a union can be
assigned to a symbol declared with the union, and no test of the union for such a type is accepted.
On the way through nested accepted tests of a symbol, no two stages that are unions are equal, and
there are no more of them than the declared type is deep. -/
theorem structural_membership_wellFounded :
    WellFounded Ty.OccursIn ∧
    (∀ members part, Relation.TransGen Ty.IsMember part (.union members) →
      part.eqStructure (.union members) = false) ∧
    (∀ (checker : Checker) (symbol : Symbol) (members : List Ty) (value : Ty),
      symbol.type = .union members → symbol.type.eqStructure value = true →
        (checker.under .structural).checkAssignment symbol value =
          .error (.unionMemberMismatch symbol.name value)) ∧
    (∀ (checker : Checker) (members : List Ty) (target : Ty),
      (Ty.union members).eqStructure target = true →
        (checker.under .structural).checkTest (.union members) target =
          .error (.invalidNarrowing target)) ∧
    ∀ (script : Script) (override : Option Config),
      (override.getD script.config).unionEquality = .structural →
        ∀ name symbol, (script.run override).symbols.resolve name = .ok symbol → ∀ place,
          ((script.stages override symbol place).filter Ty.isUnion).Pairwise
              (fun outer inner => outer.eqStructure inner = false) ∧
            ((script.stages override symbol place).filter Ty.isUnion).length ≤
              symbol.type.depth :=
  ⟨Subrelation.wf Ty.depth_lt_of_occursIn (measure Ty.depth).wf,
    fun _ _ => Ty.eqStructure_eq_false_of_transGen,
    fun _ _ _ _ => Checker.checkAssignment_union_self rfl,
    fun _ _ _ => Checker.checkTest_union_self rfl,
    fun _ _ hmode _ _ hsymbol => unions_of_stages hmode hsymbol⟩

/-- A script that narrows a symbol through a nested union, written in another order than it is
declared, to a nominal type, which it is narrowed to once more. -/
def burrowing : Script where
  config := { unionEquality := .structural }
  declarations :=
    [⟨"x", .union [.union [.union [.named "a", .named "b"], .named "c"], .named "d"]⟩]
  checks :=
    [.test { symbol? := some "x" } (.union [.named "c", .union [.named "b", .named "a"]])
      [.test { symbol? := some "x" } (.union [.named "b", .named "a", .named "b"])
        [.test { symbol? := some "x" } (.named "b")
          [.test { symbol? := some "x" } (.named "b") []]]]]

/-- On the way to the innermost test of the script there are five stages, and the three unions among
them are as many as the declared type is deep. Neither can the symbol be given a value of its own
type, written in another order, nor be tested for it. -/
theorem burrowing_stages :
    let declared :=
      Ty.union [.union [.union [.nominal "a", .nominal "b"], .nominal "c"], .nominal "d"]
    let reordered :=
      Ty.union [.nominal "d", .union [.nominal "c", .union [.nominal "b", .nominal "a"]]]
    let unions := (burrowing.stages none ⟨"x", declared⟩ [0, 0, 0, 0]).filter Ty.isUnion
    (burrowing.stages none ⟨"x", declared⟩ [0, 0, 0, 0]).length = 5 ∧ unions.length = 3 ∧
      unions.Pairwise (fun outer inner => outer.eqStructure inner = false) ∧ unions.length ≤ 3 ∧
      declared.eqStructure reordered = true ∧
      (Checker.under {} .structural).checkAssignment ⟨"x", declared⟩ reordered =
        .error (.unionMemberMismatch "x" reordered) ∧
      (Checker.under {} .structural).checkTest declared reordered =
        .error (.invalidNarrowing reordered) ∧
      (Ty.nominal "b").eqStructure declared = false := by
  intro declared reordered unions
  obtain ⟨_, hmembers, hassignment, htest, hstages⟩ := structural_membership_wellFounded
  obtain ⟨hpairwise, hlength⟩ := hstages burrowing none rfl "x" ⟨"x", declared⟩ rfl [0, 0, 0, 0]
  have hequal : declared.eqStructure reordered = true := by decide
  have hinner : (Ty.nominal "b").IsMember (.union [.nominal "a", .nominal "b"]) :=
    ⟨_, rfl, by simp⟩
  have hmiddle : (Ty.union [.nominal "a", .nominal "b"]).IsMember
      (.union [.union [.nominal "a", .nominal "b"], .nominal "c"]) := ⟨_, rfl, by simp⟩
  have houter : (Ty.union [.union [.nominal "a", .nominal "b"], .nominal "c"]).IsMember declared :=
    ⟨_, rfl, by simp⟩
  have hpart : Relation.TransGen Ty.IsMember (.nominal "b") declared :=
    ((Relation.TransGen.single hinner).tail hmiddle).tail houter
  exact ⟨rfl, rfl, hpairwise, hlength, hequal,
    hassignment {} ⟨"x", declared⟩ _ reordered rfl hequal, htest {} _ reordered hequal,
    hmembers _ _ hpart⟩

end Script

end Narrowing
