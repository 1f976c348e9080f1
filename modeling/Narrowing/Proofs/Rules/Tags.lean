import Narrowing.Proofs.Rules.Settings
import Narrowing.Ty.Tagged

/-!
# The rules and run-time tags

The rules judge by the types that a program declares, and a running program tells its values apart
by their tags. By name the two views agree: a symbol takes the values that its slot can hold, and a
test is accepted exactly when some value of the tested type passes it at run time. In structural
mode the rules accept less than that.
-/

namespace Narrowing

namespace TaggedValue

/-- Whether a slot takes a value depends on the name of its tag alone. -/
theorem inhabits_congr {value value' : TaggedValue} (hname : value.tag.name = value'.tag.name)
    (declared : Ty) : value.inhabits declared = value'.inhabits declared := by
  cases declared with
  | nominal name => simp only [inhabits, Ty.eqName, hname]
  | union members => simp only [inhabits, Ty.eqName, hname]

/-- A value passes the tests for types that have the name of its tag. -/
theorem is_eq_true_iff {value : TaggedValue} {target : Ty} :
    value.is target = true ↔ value.tag.name = target.name := by
  simp [is, Ty.eqName]

end TaggedValue

namespace Checker

/-- An assignment is accepted when the declared type admits the value, and rejected otherwise. -/
theorem isOk_checkAssignment (checker : Checker) (symbol : Symbol) (value : Ty) :
    (checker.checkAssignment symbol value).isOk = checker.admits symbol.type value := by
  unfold checkAssignment
  by_cases hadmits : checker.admits symbol.type value = true
  · simp [hadmits, Except.isOk, Except.toBool]
  · by_cases hunion : symbol.type.isUnion = true <;>
      simp [hadmits, hunion, Except.isOk, Except.toBool]

/-- A test is accepted when the subject admits the target, and rejected otherwise. -/
theorem isOk_checkTest (checker : Checker) (subject target : Ty) :
    (checker.checkTest subject target).isOk = checker.admits subject target := by
  unfold checkTest
  by_cases hadmits : checker.admits subject target = true
  · simp [hadmits, Except.isOk, Except.toBool]
  · by_cases hunion : subject.isUnion = true <;>
      simp [hadmits, hunion, Except.isOk, Except.toBool]

/-- By name, a type admits exactly the tags of the values that its slots can hold. -/
theorem admits_byName_eq_inhabits (checker : Checker) (declared type : Ty) :
    (checker.under .byName).admits declared type = (⟨type⟩ : TaggedValue).inhabits declared := by
  cases declared with
  | nominal name => rfl
  | union members => rfl

/-- By name, a type admits another one exactly when some value of the first type passes the test for
the second one. A value that carries the other type itself is one, if there are any: the slots of
the first type do not tell it from a value that passes the test. -/
theorem admits_byName_iff_exists_value {checker : Checker} {subject target : Ty} :
    (checker.under .byName).admits subject target = true ↔
      ∃ value : TaggedValue, value.inhabits subject = true ∧ value.is target = true := by
  rw [admits_byName_eq_inhabits]
  constructor
  · intro hinhabits
    have hpasses : (⟨target⟩ : TaggedValue).is target = true :=
      TaggedValue.is_eq_true_iff.mpr rfl
    exact ⟨⟨target⟩, hinhabits, hpasses⟩
  · rintro ⟨value, hinhabits, hpasses⟩
    have hname : value.tag.name = target.name := TaggedValue.is_eq_true_iff.mp hpasses
    have hsame : value.inhabits subject = (⟨target⟩ : TaggedValue).inhabits subject :=
      TaggedValue.inhabits_congr hname subject
    rw [← hsame, hinhabits]

/-- By name, the rules agree with the tags that values carry at run time, so no value of the tested
type passes a test that is rejected. Structural mode accepts nothing that the tags speak against,
but it rejects values that the slot could hold, and tests that some value would pass. -/
theorem rules_agree_with_tags (checker : Checker) :
    (∀ (symbol : Symbol) (value : Ty),
      ((checker.under .byName).checkAssignment symbol value).isOk = true ↔
        (⟨value⟩ : TaggedValue).inhabits symbol.type = true) ∧
    (∀ subject target : Ty,
      ((checker.under .byName).checkTest subject target).isOk = true ↔
        ∃ value : TaggedValue, value.inhabits subject = true ∧ value.is target = true) ∧
    (∀ subject target : Ty, ((checker.under .byName).checkTest subject target).isOk = false →
      ∀ value : TaggedValue, value.inhabits subject = true → value.is target = false) ∧
    (∀ (symbol : Symbol) (value : Ty),
      ((checker.under .structural).checkAssignment symbol value).isOk = true →
        (⟨value⟩ : TaggedValue).inhabits symbol.type = true) ∧
    (∀ subject target : Ty,
      ((checker.under .structural).checkTest subject target).isOk = true →
        ∃ value : TaggedValue, value.inhabits subject = true ∧ value.is target = true) ∧
    (¬ ∀ (symbol : Symbol) (value : Ty), (⟨value⟩ : TaggedValue).inhabits symbol.type = true →
      ((checker.under .structural).checkAssignment symbol value).isOk = true) ∧
    ¬ ∀ subject target : Ty,
      (∃ value : TaggedValue, value.inhabits subject = true ∧ value.is target = true) →
        ((checker.under .structural).checkTest subject target).isOk = true := by
  simp only [isOk_checkAssignment, isOk_checkTest]
  refine ⟨fun symbol value => ?_, fun subject target => admits_byName_iff_exists_value,
    fun subject target hrejected value hinhabits => ?_, fun symbol value haccepted => ?_,
    fun subject target haccepted => ?_, fun hconverse => ?_, fun hconverse => ?_⟩
  · rw [admits_byName_eq_inhabits]
  · rw [Bool.eq_false_iff] at hrejected ⊢
    intro hpasses
    exact hrejected (admits_byName_iff_exists_value.mpr ⟨value, hinhabits, hpasses⟩)
  · rw [← admits_byName_eq_inhabits checker]
    exact admits_byName_of_structural haccepted
  · exact admits_byName_iff_exists_value.mp (admits_byName_of_structural haccepted)
  · have hadmits := hconverse ⟨"x", .nominal Ty.unionName⟩ (.union [.nominal "int"]) rfl
    cases hadmits
  · have hadmits := hconverse (.nominal Ty.unionName) (.union [.nominal "int"])
      ⟨⟨.union [.nominal "int"]⟩, rfl, rfl⟩
    cases hadmits

/-- A nested union as declared type, and a nominal type next to it that is named like a union: the
accepted value and target stand for tags of that type, and the rejected target for none. -/
theorem nested_rules_agree_with_tags :
    let pair := Ty.union [.nominal "int", .nominal "Point"]
    let declared := Ty.union [pair, .nominal Ty.unionName]
    let accepted := Ty.union [.nominal "Point", .nominal "int", .nominal "int"]
    let checker : Checker := {}
    ((checker.under .structural).checkAssignment ⟨"x", declared⟩ accepted).isOk = true ∧
      (⟨accepted⟩ : TaggedValue).inhabits declared = true ∧
      ((checker.under .structural).checkTest declared accepted).isOk = true ∧
      (∃ value : TaggedValue, value.inhabits declared = true ∧ value.is accepted = true) ∧
      ((checker.under .byName).checkTest declared (.nominal "int")).isOk = false ∧
      (⟨pair⟩ : TaggedValue).inhabits declared = true ∧
      (⟨pair⟩ : TaggedValue).is (.nominal "int") = false := by
  intro pair declared accepted checker
  obtain ⟨_, _, hrejected, hassignment, htest, _⟩ := rules_agree_with_tags checker
  have hassigned : ((checker.under .structural).checkAssignment ⟨"x", declared⟩ accepted).isOk =
      true := by decide
  have htested : ((checker.under .structural).checkTest declared accepted).isOk = true := by decide
  have hrefused : ((checker.under .byName).checkTest declared (.nominal "int")).isOk = false := by
    decide
  have hpair : (⟨pair⟩ : TaggedValue).inhabits declared = true := by decide
  exact ⟨hassigned, hassignment ⟨"x", declared⟩ accepted hassigned, htested,
    htest declared accepted htested, hrefused, hpair,
    hrejected declared (.nominal "int") hrefused ⟨pair⟩ hpair⟩

end Checker

end Narrowing
