import Narrowing.Proofs.Rules.Congruence

/-!
# The rules under both settings

Types that are equal by structure have the same name, so all that the rules accept in structural
mode they accept by name as well. The converse fails as soon as two unions meet, or a union and a
nominal type that is named like one. A type is plain if neither can happen to it or to its members;
what a plain type admits does not depend on the setting.
-/

namespace Narrowing

namespace Ty

/-- A nominal type that is not named like a union, or a union of such types. -/
def Plain : Ty → Prop
  | .nominal name => name ≠ unionName
  | .union members => ∀ member ∈ members, ∃ name, member = .nominal name ∧ name ≠ unionName

/-- A nominal type that is not named like a union has the same equals under both comparisons. -/
theorem eqName_eq_eqStructure_of_plain {name : String} (hname : (nominal name).Plain) (type : Ty) :
    (nominal name).eqName type = (nominal name).eqStructure type := by
  cases type with
  | nominal name' => simp [eqName]
  | union members =>
    have hne : name ≠ unionName := hname
    simp [eqName, hne]

end Ty

namespace Checker

/-- The same schema under a setting. -/
def under (checker : Checker) (equality : UnionEquality) : Checker where
  schema := checker.schema
  config := { unionEquality := equality }

@[simp] theorem typesEqual_under_byName (checker : Checker) (a b : Ty) :
    (checker.under .byName).typesEqual a b = a.eqName b := rfl

@[simp] theorem typesEqual_under_structural (checker : Checker) (a b : Ty) :
    (checker.under .structural).typesEqual a b = a.eqStructure b := rfl

/-- What a type admits in structural mode, it admits by name: the member that equals the other type
by structure has its name. -/
theorem admits_byName_of_structural {checker : Checker} {type other : Ty}
    (h : (checker.under .structural).admits type other = true) :
    (checker.under .byName).admits type other = true := by
  have hname : ∀ member : Ty, member.eqStructure other = true → member.eqName other = true := by
    intro member heq
    simpa [Ty.eqName] using Ty.name_eq_of_eqStructure heq
  cases type with
  | nominal name => exact hname (.nominal name) h
  | union members =>
    obtain ⟨member, hmember, heq⟩ := List.any_eq_true.mp h
    exact List.any_eq_true.mpr ⟨member, hmember, hname member heq⟩

/-- A plain type admits the same types under both settings. -/
theorem admits_eq_of_plain (checker : Checker) {type : Ty} (htype : type.Plain) (other : Ty) :
    (checker.under .byName).admits type other = (checker.under .structural).admits type other := by
  cases type with
  | nominal name => exact Ty.eqName_eq_eqStructure_of_plain htype other
  | union members =>
    have hmembers : ∀ member ∈ members, member.eqName other = member.eqStructure other := by
      intro member hmember
      obtain ⟨name, rfl, hname⟩ := htype member hmember
      exact Ty.eqName_eq_eqStructure_of_plain hname other
    simp only [admits, contains, typesEqual_under_byName, typesEqual_under_structural]
    rw [Bool.eq_iff_iff, List.any_eq_true, List.any_eq_true]
    exact exists_congr fun member => and_congr_right fun hmember => by rw [hmembers member hmember]

/-- A plain type admits plain types only. -/
theorem plain_of_admits {checker : Checker} {type other : Ty} (htype : type.Plain)
    (h : (checker.under .structural).admits type other = true) : other.Plain := by
  have hnominal : ∀ name, name ≠ Ty.unionName → (Ty.nominal name).eqStructure other = true →
      other.Plain := by
    intro name hname heq
    cases other with
    | nominal name' =>
      obtain rfl : name = name' := by simpa using heq
      exact hname
    | union members => simp at heq
  cases type with
  | nominal name => exact hnominal name htype h
  | union members =>
    obtain ⟨member, hmember, heq⟩ := List.any_eq_true.mp h
    obtain ⟨name, rfl, hname⟩ := htype member hmember
    exact hnominal name hname heq

/-- Assignments to symbols of plain types have the same outcome under both settings. -/
theorem checkAssignment_eq_of_plain (checker : Checker) {symbol : Symbol}
    (hsymbol : symbol.type.Plain) (value : Ty) :
    (checker.under .byName).checkAssignment symbol value =
      (checker.under .structural).checkAssignment symbol value := by
  unfold checkAssignment
  rw [checker.admits_eq_of_plain hsymbol value]

/-- Tests of plain types have the same outcome under both settings. -/
theorem checkTest_eq_of_plain (checker : Checker) {subject : Ty} (hsubject : subject.Plain)
    (target : Ty) :
    (checker.under .byName).checkTest subject target =
      (checker.under .structural).checkTest subject target := by
  unfold checkTest
  rw [checker.admits_eq_of_plain hsubject target]

end Checker

end Narrowing
