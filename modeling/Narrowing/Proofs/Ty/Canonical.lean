import Mathlib.Data.Finset.Image
import Mathlib.Data.Fintype.Basic
import Mathlib.Data.QPF.Univariate.Basic
import Narrowing.Ty.Equality

/-!
# Canonical forms of types

Structural equality ignores the order and the repetitions of union members at every depth. The
canonical form of a type forgets exactly these: it is a name, or a finite set of canonical forms.
Canonical forms are the least solution of that equation, and two types are equal by structure when
their canonical forms are the same.
-/

namespace Narrowing

/-- One level of a canonical form: a name, or the set of the forms one level below. -/
inductive CanonicalLayer (α : Type) where
  /-- The form of a nominal type. -/
  | nominal (name : String)
  /-- The form of a union. -/
  | union (members : Finset α)

namespace CanonicalLayer

open scoped Classical in
/-- Changes the forms one level below. -/
noncomputable def map {α β : Type} (f : α → β) : CanonicalLayer α → CanonicalLayer β
  | .nominal name => .nominal name
  | .union members => .union (members.image f)

noncomputable instance : Functor CanonicalLayer where
  map := map

/-- The shapes of a layer: a name, or the length of a list of forms. -/
def shapes : PFunctor where
  A := String ⊕ Nat
  B := Sum.elim (fun _ => Fin 0) Fin

open scoped Classical in
/-- The layer that a shape with its forms stands for. -/
noncomputable def ofShape {α : Type} : shapes α → CanonicalLayer α
  | ⟨.inl name, _⟩ => .nominal name
  | ⟨.inr length, forms⟩ => .union ((Finset.univ : Finset (Fin length)).image forms)

/-- A shape that stands for the layer. -/
noncomputable def toShape {α : Type} : CanonicalLayer α → shapes α
  | .nominal name => ⟨.inl name, Fin.elim0⟩
  | .union members => ⟨.inr members.toList.length, members.toList.get⟩

open scoped Classical in
theorem ofShape_toShape {α : Type} (layer : CanonicalLayer α) :
    ofShape (toShape layer) = layer := by
  cases layer with
  | nominal name => rfl
  | union members =>
    have hmembers : (Finset.univ : Finset (Fin members.toList.length)).image members.toList.get =
        members := by
      ext form
      simp
    exact congrArg union hmembers

open scoped Classical in
theorem ofShape_map {α β : Type} (f : α → β) (shape : shapes α) :
    ofShape (shapes.map f shape) = f <$> ofShape shape := by
  obtain ⟨name | length, forms⟩ := shape
  · rfl
  · have himage :=
      Finset.image_image (s := (Finset.univ : Finset (Fin length))) (f := forms) (g := f)
    exact congrArg union himage.symm

noncomputable instance : QPF CanonicalLayer where
  P := shapes
  abs := ofShape
  repr := toShape
  abs_repr := ofShape_toShape
  abs_map := ofShape_map

end CanonicalLayer

/-- A canonical form: a name, or a finite set of canonical forms, and so on to a finite depth. -/
def Canonical : Type := QPF.Fix CanonicalLayer

namespace Canonical

/-- The form of the nominal type of the given name. -/
noncomputable def nominal (name : String) : Canonical := QPF.Fix.mk (.nominal name)

/-- The form of the unions whose members have exactly the given forms. -/
noncomputable def union (members : Finset Canonical) : Canonical := QPF.Fix.mk (.union members)

/-- The outermost level of a form. -/
noncomputable def dest : Canonical → CanonicalLayer Canonical := QPF.Fix.dest

@[simp] theorem dest_nominal (name : String) : (nominal name).dest = .nominal name :=
  QPF.Fix.dest_mk _

@[simp] theorem dest_union (members : Finset Canonical) : (union members).dest = .union members :=
  QPF.Fix.dest_mk _

/-- The form of a nominal type is its name and nothing else. -/
@[simp] theorem nominal_inj {a b : String} : nominal a = nominal b ↔ a = b := by
  constructor
  · intro h
    simpa using congrArg dest h
  · exact congrArg nominal

/-- The form of a union is the set of its members' forms and nothing else. -/
@[simp] theorem union_inj {as bs : Finset Canonical} : union as = union bs ↔ as = bs := by
  constructor
  · intro h
    simpa using congrArg dest h
  · exact congrArg union

@[simp] theorem nominal_ne_union (name : String) (members : Finset Canonical) :
    nominal name ≠ union members := by
  intro h
  simpa using congrArg dest h

@[simp] theorem union_ne_nominal (members : Finset Canonical) (name : String) :
    union members ≠ nominal name := (nominal_ne_union name members).symm

end Canonical

namespace Ty

open scoped Classical in
mutual

/-- The canonical form of a type: its name, or the set of its members' canonical forms. -/
noncomputable def canonical : Ty → Canonical
  | .nominal name => .nominal name
  | .union members => .union (canonicalSet members)

/-- The set of the canonical forms of the listed types. -/
noncomputable def canonicalSet : List Ty → Finset Canonical
  | [] => ∅
  | member :: rest => insert member.canonical (canonicalSet rest)

end

/-- A form is in the set of the listed types' forms when it is the form of one of them. -/
@[simp] theorem mem_canonicalSet {form : Canonical} {members : List Ty} :
    form ∈ canonicalSet members ↔ ∃ member ∈ members, member.canonical = form := by
  induction members with
  | nil => simp [canonicalSet]
  | cons member rest ih => simp [canonicalSet, ih, eq_comm]

/-- A property holds of all types if it holds of the nominal ones and of every union whose members
have it. -/
theorem induction {motive : Ty → Prop} (nominal : ∀ name, motive (.nominal name))
    (union : ∀ members, (∀ member ∈ members, motive member) → motive (.union members)) :
    ∀ type, motive type
  | .nominal name => nominal name
  | .union members => union members fun member _ => induction nominal union member

/-- Unions have the same canonical form exactly when each member of either one has the form of some
member of the other. -/
theorem canonical_union_eq_iff {as bs : List Ty} :
    (union as).canonical = (union bs).canonical ↔
      (∀ a ∈ as, ∃ b ∈ bs, a.canonical = b.canonical) ∧
        ∀ b ∈ bs, ∃ a ∈ as, a.canonical = b.canonical := by
  simp only [canonical, Canonical.union_inj, Finset.Subset.antisymm_iff, Finset.subset_iff,
    mem_canonicalSet]
  constructor
  · rintro ⟨hleft, hright⟩
    refine ⟨fun a ha => ?_, fun b hb => hright ⟨b, hb, rfl⟩⟩
    obtain ⟨b, hb, heq⟩ := hleft ⟨a, ha, rfl⟩
    exact ⟨b, hb, heq.symm⟩
  · rintro ⟨hleft, hright⟩
    constructor
    · rintro form ⟨a, ha, rfl⟩
      obtain ⟨b, hb, heq⟩ := hleft a ha
      exact ⟨b, hb, heq.symm⟩
    · rintro form ⟨b, hb, rfl⟩
      exact hright b hb

/-- Types are equal by structure exactly when their canonical forms are the same. The members of the
first type carry the induction, against all types at once. -/
theorem eqStructure_iff (a b : Ty) : a.eqStructure b = true ↔ a.canonical = b.canonical := by
  induction a using Ty.induction generalizing b with
  | nominal name =>
    cases b with
    | nominal name' => simp [canonical]
    | union bs => simp [canonical]
  | union as ih =>
    cases b with
    | nominal name => simp [canonical]
    | union bs =>
      rw [eqStructure_union, canonical_union_eq_iff]
      simp only [Bool.and_eq_true, List.all_eq_true, List.any_eq_true]
      constructor
      · rintro ⟨hleft, hright⟩
        constructor
        · intro a ha
          obtain ⟨b, hb, heq⟩ := hleft a ha
          exact ⟨b, hb, (ih a ha b).mp heq⟩
        · intro b hb
          obtain ⟨a, ha, heq⟩ := hright b hb
          exact ⟨a, ha, (ih a ha b).mp heq⟩
      · rintro ⟨hleft, hright⟩
        constructor
        · intro a ha
          obtain ⟨b, hb, heq⟩ := hleft a ha
          exact ⟨b, hb, (ih a ha b).mpr heq⟩
        · intro b hb
          obtain ⟨a, ha, heq⟩ := hright b hb
          exact ⟨a, ha, (ih a ha b).mpr heq⟩

end Ty

end Narrowing
