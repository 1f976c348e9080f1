import Narrowing.Proofs.Outcome
import Narrowing.Proofs.Ty.Structure
import Narrowing.TypeRef

/-!
# What references stand for

A reference stands for a type when no union in it is empty, and the one way to fail is the same for
all references. Two references are similar when they fail alike or stand for types that are equal
by structure; changes of order and of repetition lead to similar references.
-/

namespace Narrowing

namespace TypeRef

/-- A property holds of all references if it holds of the names and of every union whose members
have it. -/
theorem induction {motive : TypeRef → Prop} (named : ∀ name, motive (.named name))
    (union : ∀ members, (∀ member ∈ members, motive member) → motive (.union members)) :
    ∀ reference, motive reference
  | .named name => named name
  | .union members => union members fun member _ => induction named union member

@[simp] theorem resolve_named (name : String) : (named name).resolve = .ok (.nominal name) := by
  simp only [resolve]

theorem resolveAll_eq_mapM (references : List TypeRef) :
    resolveAll references = references.mapM resolve := by
  induction references with
  | nil => rfl
  | cons reference rest ih => rw [resolveAll, List.mapM_cons, ih]

/-- References stand for types when each of them does. -/
theorem resolveAll_eq_ok_iff {references : List TypeRef} {types : List Ty} :
    resolveAll references = .ok types ↔
      List.Forall₂ (fun reference type => reference.resolve = .ok type) references types := by
  rw [resolveAll_eq_mapM, mapM_eq_ok_iff]

/-- A union stands for the union of what its members stand for, provided that it has any. -/
theorem resolve_union_eq_ok_iff {members : List TypeRef} {type : Ty} :
    (union members).resolve = .ok type ↔
      ∃ types, types ≠ [] ∧ type = .union types ∧
        List.Forall₂ (fun reference type => reference.resolve = .ok type) members types := by
  simp only [resolve, bind_eq_ok_iff, resolveAll_eq_ok_iff, Ty.union?]
  constructor
  · rintro ⟨types, htypes, hunion⟩
    cases types with
    | nil => simp at hunion
    | cons first rest => exact ⟨first :: rest, by simp, by simpa using hunion.symm, htypes⟩
  · rintro ⟨types, hne, rfl, htypes⟩
    exact ⟨types, htypes, by simp [hne]⟩

/-- There is one way for a reference to stand for nothing. -/
theorem eq_emptyUnion_of_resolve {reference : TypeRef} {failure : Failure}
    (h : reference.resolve = .error failure) : failure = .emptyUnion := by
  induction reference using TypeRef.induction with
  | named name => simp at h
  | union members ih =>
    rw [resolve, bind_eq_error_iff] at h
    rcases h with hmembers | ⟨types, _, hunion⟩
    · rw [resolveAll_eq_mapM] at hmembers
      obtain ⟨member, hmember, hfailure⟩ := exists_error_of_mapM hmembers
      exact ih member hmember hfailure
    · unfold Ty.union? at hunion
      by_cases hempty : types.isEmpty = true
      · simpa [hempty, eq_comm] using hunion
      · simp [hempty] at hunion

/-- References that fail alike, or stand for types that are equal by structure. -/
def Similar (reference reference' : TypeRef) : Prop :=
  match reference.resolve, reference'.resolve with
  | .ok type, .ok type' => type.eqStructure type' = true
  | .error _, .error _ => True
  | _, _ => False

/-- Similarity in one direction: what the first reference stands for, the second stands for too, up
to structure. -/
theorem similar_iff {reference reference' : TypeRef} :
    reference.Similar reference' ↔
      (∀ type, reference.resolve = .ok type →
        ∃ type', reference'.resolve = .ok type' ∧ type.eqStructure type' = true) ∧
      ∀ type', reference'.resolve = .ok type' →
        ∃ type, reference.resolve = .ok type ∧ type.eqStructure type' = true := by
  unfold Similar
  cases reference.resolve <;> cases reference'.resolve <;> simp

theorem Similar.refl (reference : TypeRef) : reference.Similar reference := by
  unfold Similar
  cases reference.resolve <;> simp

theorem Similar.symm {reference reference' : TypeRef} (h : reference.Similar reference') :
    reference'.Similar reference := by
  rw [similar_iff] at h ⊢
  constructor
  · intro type' htype'
    obtain ⟨type, htype, heq⟩ := h.2 type' htype'
    exact ⟨type, htype, by rwa [Ty.eqStructure_comm]⟩
  · intro type htype
    obtain ⟨type', htype', heq⟩ := h.1 type htype
    exact ⟨type', htype', by rwa [Ty.eqStructure_comm]⟩

theorem Similar.trans {a b c : TypeRef} (hab : a.Similar b) (hbc : b.Similar c) :
    a.Similar c := by
  rw [similar_iff] at hab hbc ⊢
  constructor
  · intro type htype
    obtain ⟨type', htype', heq⟩ := hab.1 type htype
    obtain ⟨type'', htype'', heq'⟩ := hbc.1 type' htype'
    exact ⟨type'', htype'', Ty.eqStructure_trans heq heq'⟩
  · intro type'' htype''
    obtain ⟨type', htype', heq'⟩ := hbc.2 type'' htype''
    obtain ⟨type, htype, heq⟩ := hab.2 type' htype'
    exact ⟨type, htype, Ty.eqStructure_trans heq heq'⟩

/-- Members that stand for the listed types can be found for each of these, and the other way
round. -/
private theorem exists_of_forall₂ {members : List TypeRef} {types : List Ty}
    (h : List.Forall₂ (fun reference type => reference.resolve = .ok type) members types) :
    (∀ member ∈ members, ∃ type ∈ types, member.resolve = .ok type) ∧
      ∀ type ∈ types, ∃ member ∈ members, member.resolve = .ok type := by
  induction h with
  | nil => simp
  | cons hfirst _ ih =>
    constructor
    · intro member hmember
      rcases List.mem_cons.mp hmember with rfl | hrest
      · exact ⟨_, by simp, hfirst⟩
      · obtain ⟨type, htype, heq⟩ := ih.1 member hrest
        exact ⟨type, by simp [htype], heq⟩
    · intro type htype
      rcases List.mem_cons.mp htype with rfl | hrest
      · exact ⟨_, by simp, hfirst⟩
      · obtain ⟨member, hmember, heq⟩ := ih.2 type hrest
        exact ⟨member, by simp [hmember], heq⟩

/-- If each of the listed references is similar to some reference of another list, then each type
that they stand for is equal to some type that the others stand for. -/
private theorem covers_of_similar {as bs : List TypeRef} {types types' : List Ty}
    (hcover : ∀ a ∈ as, ∃ b ∈ bs, Similar a b)
    (htypes : List.Forall₂ (fun reference type => reference.resolve = .ok type) as types)
    (htypes' : List.Forall₂ (fun reference type => reference.resolve = .ok type) bs types') :
    ∀ type ∈ types, ∃ type' ∈ types', type.eqStructure type' = true := by
  intro type htype
  obtain ⟨a, ha, hfirst⟩ := (exists_of_forall₂ htypes).2 type htype
  obtain ⟨b, hb, hsimilar⟩ := hcover a ha
  obtain ⟨type', htype', hsecond⟩ := (exists_of_forall₂ htypes').1 b hb
  obtain ⟨type'', hthird, heq⟩ := (similar_iff.mp hsimilar).1 type hfirst
  obtain rfl : type' = type'' := by simpa [hsecond] using hthird
  exact ⟨type', htype', heq⟩

/-- A union whose members are covered by those of a union that stands for a type stands for an equal
type itself, if it covers them in turn. -/
private theorem resolve_union_of_covers {as bs : List TypeRef}
    (hleft : ∀ a ∈ as, ∃ b ∈ bs, Similar a b) (hright : ∀ b ∈ bs, ∃ a ∈ as, Similar b a) {type : Ty}
    (htype : (union as).resolve = .ok type) :
    ∃ type', (union bs).resolve = .ok type' ∧ type.eqStructure type' = true := by
  obtain ⟨types, hne, rfl, htypes⟩ := resolve_union_eq_ok_iff.mp htype
  have hall : ∀ b ∈ bs, ∃ type, b.resolve = .ok type := by
    intro b hb
    obtain ⟨a, ha, hsimilar⟩ := hright b hb
    obtain ⟨type, _, hfirst⟩ := (exists_of_forall₂ htypes).1 a ha
    obtain ⟨type', htype', _⟩ := (similar_iff.mp hsimilar).2 type hfirst
    exact ⟨type', htype'⟩
  obtain ⟨types', htypes'⟩ := exists_forall₂ hall
  have hcoverLeft := covers_of_similar hleft htypes htypes'
  have hcoverRight := covers_of_similar hright htypes' htypes
  have hne' : types' ≠ [] := by
    obtain ⟨first, hfirst⟩ := List.exists_mem_of_ne_nil types hne
    obtain ⟨type', htype', _⟩ := hcoverLeft first hfirst
    exact List.ne_nil_of_mem htype'
  refine ⟨.union types', resolve_union_eq_ok_iff.mpr ⟨types', hne', rfl, htypes'⟩, ?_⟩
  rw [Ty.eqStructure_union_covers, Bool.and_eq_true]
  simp only [List.all_eq_true, List.any_eq_true]
  exact ⟨hcoverLeft, hcoverRight⟩

/-- Unions of references are similar when each covers the other. -/
theorem Similar.union {as bs : List TypeRef} (hleft : ∀ a ∈ as, ∃ b ∈ bs, Similar a b)
    (hright : ∀ b ∈ bs, ∃ a ∈ as, Similar a b) : Similar (union as) (union bs) := by
  have hback : ∀ b ∈ bs, ∃ a ∈ as, Similar b a := by
    intro b hb
    obtain ⟨a, ha, hsimilar⟩ := hright b hb
    exact ⟨a, ha, hsimilar.symm⟩
  rw [similar_iff]
  constructor
  · intro type htype
    exact resolve_union_of_covers hleft hback htype
  · intro type' htype'
    obtain ⟨type, htype, heq⟩ := resolve_union_of_covers hback hleft htype'
    exact ⟨type, htype, by rwa [Ty.eqStructure_comm]⟩

/-- Changes of order and of repetition lead to similar references. -/
theorem similar_of_rearrangeable {reference reference' : TypeRef}
    (h : Rearrangeable union reference reference') : reference.Similar reference' := by
  induction h with
  | rel _ _ h => exact h.related Similar.refl fun _ _ => Similar.union
  | refl reference => exact Similar.refl reference
  | symm _ _ _ ih => exact ih.symm
  | trans _ _ _ _ _ ih₁ ih₂ => exact ih₁.trans ih₂

/-- Similar references have outcomes that are alike: there is one way to fail. -/
theorem Similar.alike {reference reference' : TypeRef} (h : reference.Similar reference') :
    Alike (fun type type' => type.eqStructure type' = true) reference.resolve
      reference'.resolve := by
  unfold Similar at h
  cases hfirst : reference.resolve with
  | error failure =>
    cases hsecond : reference'.resolve with
    | error failure' =>
      rw [eq_emptyUnion_of_resolve hfirst, eq_emptyUnion_of_resolve hsecond]
      exact rfl
    | ok type' => simp [hfirst, hsecond] at h
  | ok type =>
    cases hsecond : reference'.resolve with
    | error failure' => simp [hfirst, hsecond] at h
    | ok type' => simpa [hfirst, hsecond, Alike] using h

end TypeRef

end Narrowing
