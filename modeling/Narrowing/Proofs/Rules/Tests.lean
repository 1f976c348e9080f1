import Narrowing.Proofs.Rules.Settings
import Narrowing.Proofs.Ty.Membership

/-!
# What tests of unions narrow to

An accepted test narrows to its target, and not to the member that let the target in. So the
narrowed type need not be among the members of the tested union. In structural mode it is one of
them up to structure. By name it is one of them unless it is named like a union, and then some
member is named so, too. All members of a union may be tested for.
-/

namespace Narrowing

namespace Ty

/-- A union, or the nominal type that is named like one. -/
def NamedLikeUnion (type : Ty) : Prop := type.isUnion = true ∨ type = .nominal unionName

theorem namedLikeUnion_iff {type : Ty} : type.NamedLikeUnion ↔ type.name = unionName := by
  cases type <;> simp [NamedLikeUnion]

/-- The same name is borne by no other type, unless it is the one that all unions share. -/
theorem eqName_iff {a b : Ty} :
    a.eqName b = true ↔ a = b ∨ a.NamedLikeUnion ∧ b.NamedLikeUnion := by
  rw [namedLikeUnion_iff, namedLikeUnion_iff, eqName, beq_iff_eq]
  constructor
  · intro hname
    by_cases hunion : a.name = unionName
    · exact .inr ⟨hunion, hname ▸ hunion⟩
    · cases a with
      | union as => exact absurd rfl hunion
      | nominal name =>
        cases b with
        | union bs => exact absurd hname hunion
        | nominal name' =>
          have hsame : name = name' := hname
          exact .inl (by rw [hsame])
  · rintro (rfl | ⟨ha, hb⟩)
    · rfl
    · rw [ha, hb]

end Ty

/-- Both comparisons take a type to be equal to itself. -/
theorem UnionEquality.typesEqual_refl (equality : UnionEquality) (type : Ty) :
    equality.typesEqual type type = true := by
  cases equality with
  | byName => exact Ty.eqName_iff.mpr (.inl rfl)
  | structural => exact type.eqStructure_refl

namespace Checker

variable {checker : Checker} {members : List Ty} {type : Ty}

/-- A union admits its members. -/
theorem admits_of_mem (hmember : type ∈ members) : checker.admits (.union members) type = true :=
  List.any_eq_true.mpr ⟨type, hmember, checker.config.unionEquality.typesEqual_refl type⟩

/-- In structural mode a union admits what equals one of its members by structure. -/
theorem exists_eqStructure_of_admits
    (h : (checker.under .structural).admits (.union members) type = true) :
    ∃ member ∈ members, type.eqStructure member = true := by
  obtain ⟨member, hmember, heq⟩ := List.any_eq_true.mp h
  rw [typesEqual_under_structural, Ty.eqStructure_comm] at heq
  exact ⟨member, hmember, heq⟩

/-- By name a union admits nothing but its members, unless one of them is named like a union: then
it admits whatever is named so. -/
theorem admits_byName_iff :
    (checker.under .byName).admits (.union members) type = true ↔
      type ∈ members ∨ type.NamedLikeUnion ∧ ∃ member ∈ members, member.NamedLikeUnion := by
  constructor
  · intro h
    obtain ⟨member, hmember, heq⟩ := List.any_eq_true.mp h
    rw [typesEqual_under_byName, Ty.eqName_iff] at heq
    rcases heq with rfl | ⟨hnamed, htype⟩
    · exact .inl hmember
    · exact .inr ⟨htype, member, hmember, hnamed⟩
  · rintro (hmember | ⟨htype, member, hmember, hnamed⟩)
    · exact admits_of_mem hmember
    · have heq : member.eqName type = true := Ty.eqName_iff.mpr (.inr ⟨hnamed, htype⟩)
      exact List.any_eq_true.mpr ⟨member, hmember, heq⟩

/-- Under either setting, the nominal types that a union admits are among its members, if they are
not named like unions. -/
theorem mem_of_admits_nominal {name : String} (hname : name ≠ Ty.unionName)
    {equality : UnionEquality}
    (h : (checker.under equality).admits (.union members) (.nominal name) = true) :
    Ty.nominal name ∈ members := by
  have hbyName : (checker.under .byName).admits (.union members) (.nominal name) = true := by
    cases equality with
    | byName => exact h
    | structural => exact admits_byName_of_structural h
  rcases admits_byName_iff.mp hbyName with hmember | ⟨hnamed, _⟩
  · exact hmember
  · exact absurd (Ty.namedLikeUnion_iff.mp hnamed) hname

/-- An accepted test of a union narrows to its target. If this is a nominal type that is not named
like a union, it is one of the members. In structural mode it equals one of them in any case; by
name it equals none at most if it is named like a union and one of the members is, too. A test for
any of the members is accepted. -/
theorem checkTest_union_narrows (checker : Checker) (members : List Ty) :
    (∀ (equality : UnionEquality) (target narrowed : Ty),
      (checker.under equality).checkTest (.union members) target = .ok narrowed →
        narrowed = target ∧
        (∀ name, narrowed = .nominal name → name ≠ Ty.unionName → narrowed ∈ members) ∧
        (equality = .structural → ∃ member ∈ members, narrowed.eqStructure member = true) ∧
        (equality = .byName → (∀ member ∈ members, narrowed.eqStructure member = false) →
          narrowed.NamedLikeUnion ∧ ∃ member ∈ members, member.NamedLikeUnion)) ∧
    ∀ (equality : UnionEquality), ∀ member ∈ members,
      (checker.under equality).checkTest (.union members) member = .ok member := by
  constructor
  · intro equality target narrowed h
    obtain ⟨hadmits, rfl⟩ := checkTest_eq_ok_iff.mp h
    refine ⟨rfl, ?_, ?_, ?_⟩
    · rintro name rfl hname
      exact mem_of_admits_nominal hname hadmits
    · rintro rfl
      exact exists_eqStructure_of_admits hadmits
    · rintro rfl hnone
      rcases admits_byName_iff.mp hadmits with hmember | hnamed
      · have hself := hnone target hmember
        rw [Ty.eqStructure_refl] at hself
        cases hself
      · exact hnamed
  · intro equality member hmember
    exact checkTest_eq_ok_iff.mpr ⟨admits_of_mem hmember, rfl⟩

/-- A union with a nested one: both settings narrow it to its nominal member, structural mode to the
nested member in another order, and by-name mode to a union that equals none of the members. -/
theorem nested_checkTest_narrows :
    let members := [Ty.nominal "Point", .union [.nominal "int", .nominal "bool"]]
    let turned := Ty.union [.nominal "bool", .nominal "int"]
    let stranger := Ty.union [.nominal "string"]
    let checker : Checker := {}
    Ty.nominal "Point" ∈ members ∧
      (checker.under .structural).checkTest (.union members) turned = .ok turned ∧
      (∃ member ∈ members, turned.eqStructure member = true) ∧
      (checker.under .byName).checkTest (.union members) stranger = .ok stranger ∧
      (∀ member ∈ members, stranger.eqStructure member = false) ∧
      stranger.NamedLikeUnion ∧ (∃ member ∈ members, member.NamedLikeUnion) ∧
      (checker.under .byName).checkTest (.union members)
          (.union [.nominal "int", .nominal "bool"]) =
        .ok (.union [.nominal "int", .nominal "bool"]) := by
  intro members turned stranger checker
  obtain ⟨hnarrows, hmembers⟩ := checkTest_union_narrows checker members
  have hpoint : (checker.under .byName).checkTest (.union members) (.nominal "Point") =
      .ok (.nominal "Point") := rfl
  have hturned : (checker.under .structural).checkTest (.union members) turned = .ok turned := rfl
  have hstranger : (checker.under .byName).checkTest (.union members) stranger = .ok stranger := rfl
  have hnone : ∀ member ∈ members, stranger.eqStructure member = false := by decide
  obtain ⟨_, hnominal, _, _⟩ := hnarrows .byName _ _ hpoint
  obtain ⟨_, _, hstructural, _⟩ := hnarrows .structural _ _ hturned
  obtain ⟨_, _, _, hbyName⟩ := hnarrows .byName _ _ hstranger
  obtain ⟨hnamed, hmember⟩ := hbyName rfl hnone
  exact ⟨hnominal "Point" rfl (by decide), hturned, hstructural rfl, hstranger, hnone, hnamed,
    hmember, hmembers .byName _ (by simp [members])⟩

end Checker

end Narrowing
