import Mathlib.Logic.Function.Basic
import Narrowing.Proofs.Ty.Canonical
import Narrowing.Proofs.Ty.Reference

/-!
# Renamed types

The names of nominal types may be replaced by others, in types and in references. As long as no two
names become one, structural equality does not notice. Equality of names does not notice either if
the one name that all unions share is neither given up nor taken by another type.
-/

namespace Narrowing

namespace Ty

mutual

/-- The type with another name for each nominal type in it. -/
def rename (naming : String → String) : Ty → Ty
  | .nominal name => .nominal (naming name)
  | .union members => .union (renameAll naming members)

/-- The listed types, with other names for the nominal types in them. -/
def renameAll (naming : String → String) : List Ty → List Ty
  | [] => []
  | member :: rest => member.rename naming :: renameAll naming rest

end

theorem renameAll_eq_map (naming : String → String) (members : List Ty) :
    renameAll naming members = members.map (rename naming) := by
  induction members with
  | nil => simp [renameAll]
  | cons member rest ih => simp [renameAll, ih]

@[simp] theorem rename_nominal (naming : String → String) (name : String) :
    (nominal name).rename naming = .nominal (naming name) := by
  simp only [rename]

@[simp] theorem rename_union (naming : String → String) (members : List Ty) :
    (union members).rename naming = .union (members.map (rename naming)) := by
  simp only [rename, renameAll_eq_map]

@[simp] theorem isUnion_rename (naming : String → String) (type : Ty) :
    (type.rename naming).isUnion = type.isUnion := by
  cases type <;> simp

/-- Structural equality tells the same types apart after an injective renaming. -/
theorem eqStructure_rename {naming : String → String} (hinjective : Function.Injective naming)
    (a b : Ty) : (a.rename naming).eqStructure (b.rename naming) = a.eqStructure b := by
  induction a using Ty.induction generalizing b with
  | nominal name =>
    cases b with
    | nominal name' => simp [hinjective.beq_eq]
    | union bs => simp
  | union as ih =>
    cases b with
    | nominal name' => simp
    | union bs =>
      rw [rename_union, rename_union, eqStructure_union, eqStructure_union, Bool.eq_iff_iff]
      simp only [Bool.and_eq_true, List.all_eq_true, List.any_eq_true, List.mem_map,
        forall_exists_index, and_imp, forall_apply_eq_imp_iff₂, exists_exists_and_eq_and]
      refine and_congr ?_ ?_
      · refine forall₂_congr fun a ha => exists_congr fun b => and_congr_right fun _ => ?_
        rw [ih a ha b]
      · refine forall₂_congr fun b _ => exists_congr fun a => and_congr_right fun ha => ?_
        rw [ih a ha b]

/-- So does equality of names, if the name of the unions remains theirs alone. -/
theorem eqName_rename {naming : String → String} (hinjective : Function.Injective naming)
    (hunion : ∀ name, naming name = unionName ↔ name = unionName) (a b : Ty) :
    (a.rename naming).eqName (b.rename naming) = a.eqName b := by
  have hown : ∀ name, (naming name == unionName) = (name == unionName) := by
    intro name
    rw [Bool.eq_iff_iff, beq_iff_eq, beq_iff_eq, hunion]
  cases a with
  | nominal name =>
    cases b with
    | nominal name' => simp [eqName, hinjective.beq_eq]
    | union bs => simp [eqName, hown]
  | union as =>
    cases b with
    | nominal name' =>
      have hown' : (unionName == naming name') = (unionName == name') := by
        rw [BEq.comm, hown, BEq.comm]
      simpa [eqName] using hown'
    | union bs => simp [eqName]

end Ty

/-- Under either setting, types are equal after a renaming exactly when they are before. By name,
the name of the unions has to remain theirs alone. -/
theorem UnionEquality.typesEqual_rename {equality : UnionEquality} {naming : String → String}
    (hinjective : Function.Injective naming)
    (hunion : equality = .byName → ∀ name, naming name = Ty.unionName ↔ name = Ty.unionName)
    (a b : Ty) :
    equality.typesEqual (a.rename naming) (b.rename naming) = equality.typesEqual a b := by
  cases equality with
  | byName => exact Ty.eqName_rename hinjective (hunion rfl) a b
  | structural => exact Ty.eqStructure_rename hinjective a b

namespace TypeRef

mutual

/-- The reference with another name for each nominal type in it. -/
def rename (naming : String → String) : TypeRef → TypeRef
  | .named name => .named (naming name)
  | .union members => .union (renameAll naming members)

/-- The listed references, with other names for the nominal types in them. -/
def renameAll (naming : String → String) : List TypeRef → List TypeRef
  | [] => []
  | member :: rest => member.rename naming :: renameAll naming rest

end

theorem renameAll_eq_map (naming : String → String) (members : List TypeRef) :
    renameAll naming members = members.map (rename naming) := by
  induction members with
  | nil => simp [renameAll]
  | cons member rest ih => simp [renameAll, ih]

/-- A renamed reference stands for the renamed type, or for nothing if the reference does. -/
theorem resolve_rename (naming : String → String) (reference : TypeRef) :
    (reference.rename naming).resolve = reference.resolve.map (Ty.rename naming) := by
  induction reference using TypeRef.induction with
  | named name => simp [rename, Except.map]
  | union members ih =>
    have hall : resolveAll (members.map (rename naming)) =
        (resolveAll members).map (List.map (Ty.rename naming)) := by
      induction members with
      | nil => rfl
      | cons member rest ihRest =>
        have hrest := ihRest fun other hother => ih other (List.mem_cons_of_mem _ hother)
        rw [List.map_cons, resolveAll, resolveAll, ih member (List.mem_cons_self ..), hrest]
        cases member.resolve with
        | error failure => rfl
        | ok type => cases resolveAll rest <;> rfl
    rw [rename, renameAll_eq_map, resolve, resolve, hall]
    cases resolveAll members with
    | error failure => rfl
    | ok types => cases types <;> simp [Except.map, Ty.union?, bind, Except.bind]

end TypeRef

end Narrowing
