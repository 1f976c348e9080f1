import Narrowing.Proofs.Ty.Membership
import Narrowing.Proofs.Ty.Reference

/-!
# Types and the references that write them

Every type can be written as a reference that is the same tree. A reference stands for a type
exactly when it is the one that writes the type and no union in it is empty: nothing is reordered,
dropped or flattened on the way. In the text of a union, each member stands as in the text of a
reference, so nested unions are put in parentheses and the outermost one is not.
-/

namespace Narrowing

namespace Ty

/-- No union in the type, at any depth, is empty. -/
def Populated (type : Ty) : Prop := ∀ part : Ty, part.Within type → part ≠ .union []

@[simp] theorem populated_nominal (name : String) : (nominal name).Populated := by
  intro part hpart
  rcases hpart.cases_tail with heq | ⟨_, _, _, hunion, _⟩
  · rw [← heq]
    exact nofun
  · cases hunion

theorem populated_union_iff {members : List Ty} :
    (union members).Populated ↔ members ≠ [] ∧ ∀ member ∈ members, member.Populated := by
  constructor
  · intro h
    constructor
    · rintro rfl
      exact h (.union []) .refl rfl
    · intro member hmember part hpart
      exact h part (hpart.tail ⟨members, rfl, hmember⟩)
  · rintro ⟨hne, hmembers⟩ part hpart
    rcases hpart.cases_tail with heq | ⟨member, hwithin, _, hunion, hmember⟩
    · rw [← heq]
      exact fun hempty => hne (Ty.union.inj hempty)
    · cases hunion
      exact hmembers member hmember part hwithin

mutual

/-- The reference that writes a type. -/
def asReference : Ty → TypeRef
  | .nominal name => .named name
  | .union members => .union (asReferences members)

/-- The references that write the listed types. -/
def asReferences : List Ty → List TypeRef
  | [] => []
  | member :: rest => member.asReference :: asReferences rest

end

theorem asReferences_eq_map (members : List Ty) :
    asReferences members = members.map asReference := by
  induction members with
  | nil => simp [asReferences]
  | cons member rest ih => simp [asReferences, ih]

@[simp] theorem asReference_nominal (name : String) :
    (nominal name).asReference = .named name := by
  simp only [asReference]

@[simp] theorem asReference_union (members : List Ty) :
    (union members).asReference = .union (members.map asReference) := by
  simp only [asReference, asReferences_eq_map]

/-- A type without empty unions is what the reference that writes it stands for. -/
theorem resolve_asReference {type : Ty} (h : type.Populated) :
    type.asReference.resolve = .ok type := by
  induction type using Ty.induction with
  | nominal name => simp
  | union members ih =>
    obtain ⟨hne, hmembers⟩ := populated_union_iff.mp h
    rw [asReference_union, TypeRef.resolve_union_eq_ok_iff]
    refine ⟨members, hne, rfl, ?_⟩
    rw [List.forall₂_map_left_iff, List.forall₂_same]
    exact fun member hmember => ih member hmember (hmembers member hmember)

/-! ### Texts -/

/-- The text of the reference that writes a type has parentheses around the text of a union. -/
theorem text_asReference (type : Ty) :
    type.asReference.text = if type.isUnion then "(" ++ type.text ++ ")" else type.text := by
  induction type using Ty.induction with
  | nominal name => simp [TypeRef.text, text]
  | union members ih =>
    have hmembers : TypeRef.memberTexts (asReferences members) = memberTexts members := by
      induction members with
      | nil => rfl
      | cons member rest ihRest =>
        have hrest := ihRest fun other hother => ih other (List.mem_cons_of_mem member hother)
        rw [asReferences, TypeRef.memberTexts, memberTexts, hrest, ih member List.mem_cons_self]
    rw [asReference, TypeRef.text, hmembers, text]
    rfl

/-- The members of a union stand in its text as they do in that of a reference. -/
theorem text_union (members : List Ty) :
    (union members).text =
      " | ".intercalate (members.map fun member => member.asReference.text) := by
  have hmembers : memberTexts members = members.map fun member => member.asReference.text := by
    induction members with
    | nil => rfl
    | cons member rest ih => rw [memberTexts, List.map_cons, ih, text_asReference]
  rw [text, hmembers]

end Ty

namespace TypeRef

/-- What a reference stands for has no empty union in it. -/
theorem populated_of_resolve {reference : TypeRef} {type : Ty}
    (h : reference.resolve = .ok type) : type.Populated := by
  induction reference using TypeRef.induction generalizing type with
  | named name =>
    rw [resolve_named] at h
    cases h
    exact Ty.populated_nominal name
  | union members ih =>
    obtain ⟨types, hne, rfl, htypes⟩ := resolve_union_eq_ok_iff.mp h
    refine Ty.populated_union_iff.mpr ⟨hne, fun type htype => ?_⟩
    obtain ⟨index, hindex, rfl⟩ := List.getElem_of_mem htype
    have hindex' : index < members.length := by rwa [htypes.length_eq]
    exact ih members[index] (List.getElem_mem hindex') (htypes.get hindex' hindex)

/-- What a reference stands for is written by that very reference. -/
theorem asReference_of_resolve {reference : TypeRef} {type : Ty}
    (h : reference.resolve = .ok type) : type.asReference = reference := by
  induction reference using TypeRef.induction generalizing type with
  | named name =>
    rw [resolve_named] at h
    cases h
    exact Ty.asReference_nominal name
  | union members ih =>
    obtain ⟨types, -, rfl, htypes⟩ := resolve_union_eq_ok_iff.mp h
    clear h
    have hmembers : types.map Ty.asReference = members := by
      induction htypes with
      | nil => rfl
      | cons hfirst _ ihRest =>
        have hrest := ihRest fun other hother => ih other (List.mem_cons_of_mem _ hother)
        rw [List.map_cons, ih _ List.mem_cons_self hfirst, hrest]
    rw [Ty.asReference_union, hmembers]

/-- A reference stands for a type exactly when it writes the type and the type has no empty union in
it. -/
theorem resolve_eq_ok_iff {reference : TypeRef} {type : Ty} :
    reference.resolve = .ok type ↔ type.asReference = reference ∧ type.Populated := by
  constructor
  · intro h
    exact ⟨asReference_of_resolve h, populated_of_resolve h⟩
  · rintro ⟨rfl, hpopulated⟩
    exact Ty.resolve_asReference hpopulated

/-- No union in a reference, at any depth, is empty. -/
inductive Populated : TypeRef → Prop where
  /-- There is no union in a name. -/
  | named (name : String) : Populated (.named name)
  /-- A union must have members, and none of them may have an empty union in it. -/
  | union {members : List TypeRef} (hne : members ≠ [])
    (hmembers : ∀ member ∈ members, Populated member) : Populated (.union members)

/-- A reference stands for a type exactly when no union in it is empty. -/
theorem exists_resolve_iff {reference : TypeRef} :
    (∃ type, reference.resolve = .ok type) ↔ reference.Populated := by
  induction reference using TypeRef.induction with
  | named name => simp [Populated.named]
  | union members ih =>
    constructor
    · rintro ⟨type, htype⟩
      obtain ⟨types, hne, rfl, htypes⟩ := resolve_union_eq_ok_iff.mp htype
      refine .union ?_ fun member hmember => ?_
      · rintro rfl
        exact hne (List.forall₂_nil_left_iff.mp htypes)
      · obtain ⟨index, hindex, rfl⟩ := List.getElem_of_mem hmember
        have hindex' : index < types.length := by rwa [← htypes.length_eq]
        exact (ih members[index] hmember).mp ⟨types[index], htypes.get hindex hindex'⟩
    · intro hpopulated
      obtain _ | ⟨hne, hmembers⟩ := hpopulated
      obtain ⟨types, htypes⟩ := exists_forall₂ fun member hmember =>
        (ih member hmember).mpr (hmembers member hmember)
      refine ⟨.union types, resolve_union_eq_ok_iff.mpr ⟨types, ?_, rfl, htypes⟩⟩
      rintro rfl
      exact hne (List.forall₂_nil_right_iff.mp htypes)

end TypeRef

end Narrowing
