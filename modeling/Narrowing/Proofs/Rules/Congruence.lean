import Narrowing.Checker
import Narrowing.Proofs.Ty.Structure

/-!
# The rules and equal types

Whether a type admits another one does not change, under either setting, when the two are replaced
by types that are equal by structure. Structural equality agrees with both comparisons: such types
bear the same name, and each member of one of two such unions has an equal among the members of the
other.
-/

namespace Narrowing

namespace Ty

/-- Types that are equal by structure have the same name. -/
theorem name_eq_of_eqStructure {a b : Ty} (h : a.eqStructure b = true) : a.name = b.name := by
  cases a with
  | nominal name =>
    cases b with
    | nominal name' => simpa using h
    | union bs => simp at h
  | union as =>
    cases b with
    | nominal name' => simp at h
    | union bs => rfl

/-- Types that are equal by structure are both unions or both nominal. -/
theorem isUnion_eq_of_eqStructure {a b : Ty} (h : a.eqStructure b = true) :
    a.isUnion = b.isUnion := by
  cases a <;> cases b <;> simp_all

end Ty

/-- Neither comparison tells types that are equal by structure apart. -/
theorem UnionEquality.typesEqual_congr (equality : UnionEquality) {a a' b b' : Ty}
    (ha : a.eqStructure a' = true) (hb : b.eqStructure b' = true) :
    equality.typesEqual a b = equality.typesEqual a' b' := by
  cases equality with
  | byName =>
    simp only [typesEqual, Ty.eqName]
    rw [Ty.name_eq_of_eqStructure ha, Ty.name_eq_of_eqStructure hb]
  | structural => exact Ty.eqStructure_congr ha hb

namespace Checker

/-- Unions that are equal by structure contain equal types alike, since every member of either one
equals a member of the other. -/
theorem contains_of_eqStructure {checker : Checker} {as bs : List Ty} {type type' : Ty}
    (hunion : (Ty.union as).eqStructure (.union bs) = true) (htype : type.eqStructure type' = true)
    (h : checker.contains as type = true) : checker.contains bs type' = true := by
  rw [Ty.eqStructure_union_covers, Bool.and_eq_true, List.all_eq_true] at hunion
  obtain ⟨a, ha, heq⟩ := List.any_eq_true.mp h
  obtain ⟨b, hb, hab⟩ := List.any_eq_true.mp (hunion.1 a ha)
  have hcongr := checker.config.unionEquality.typesEqual_congr hab htype
  exact List.any_eq_true.mpr ⟨b, hb, by rw [typesEqual, ← hcongr]; exact heq⟩

/-- What a type admits does not depend on the order or the repetition of members, on either side. -/
theorem admits_congr (checker : Checker) {declared declared' type type' : Ty}
    (hdeclared : declared.eqStructure declared' = true) (htype : type.eqStructure type' = true) :
    checker.admits declared type = checker.admits declared' type' := by
  cases declared with
  | nominal name =>
    cases declared' with
    | nominal name' => exact checker.config.unionEquality.typesEqual_congr hdeclared htype
    | union bs => simp at hdeclared
  | union as =>
    cases declared' with
    | nominal name' => simp at hdeclared
    | union bs =>
      rw [Bool.eq_iff_iff]
      constructor
      · exact contains_of_eqStructure hdeclared htype
      · rw [Ty.eqStructure_comm] at hdeclared htype
        exact contains_of_eqStructure hdeclared htype

end Checker

end Narrowing
