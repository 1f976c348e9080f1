import Narrowing.Proofs.Ty.Structure

/-!
# Members of members

A union has members, these may have members of their own, and so on. How deep a type goes is the
same for types that are equal by structure, whatever the order and the repetitions of their members,
and a union goes deeper than each of its members. So no union occurs in itself, not even up to
structure: structural membership is well-founded.
-/

namespace Narrowing

namespace Ty

/-- The first type is listed among the members of the second. -/
def IsMember (member type : Ty) : Prop := ∃ members, type = .union members ∧ member ∈ members

/-- The first type is the second, or a member of it, or a member of a member, and so on. -/
def Within : Ty → Ty → Prop := Relation.ReflTransGen IsMember

/-- What equals a nominal type by structure is that nominal type. -/
theorem eq_nominal_of_eqStructure {name : String} {type : Ty}
    (h : (nominal name).eqStructure type = true) : type = nominal name := by
  cases type with
  | nominal name' =>
    have hname : name = name' := by simpa using h
    rw [hname]
  | union members => simp at h

/-- Each member of a union equals, by structure, some member of every union that equals the first
one. -/
theorem exists_member_of_eqStructure {members : List Ty} {type member : Ty}
    (h : (union members).eqStructure type = true) (hmember : member ∈ members) :
    ∃ member', IsMember member' type ∧ member.eqStructure member' = true := by
  cases type with
  | nominal name => simp at h
  | union members' =>
    rw [eqStructure_union_covers, Bool.and_eq_true, List.all_eq_true] at h
    obtain ⟨member', hmember', heq⟩ := List.any_eq_true.mp (h.1 member hmember)
    exact ⟨member', ⟨members', rfl, hmember'⟩, heq⟩

/-- The first type equals, by structure, a member of the second. This is how structural mode
understands that a type is in a union. -/
def OccursIn (member type : Ty) : Prop :=
  ∃ part : Ty, part.IsMember type ∧ part.eqStructure member = true

/-! ### Depth -/

mutual

/-- How deep a type goes: a nominal type not at all, and a union one level deeper than the deepest
of its members. -/
def depth : Ty → Nat
  | .nominal _ => 0
  | .union members => deepest members + 1

/-- The depth of the deepest of the listed types. -/
def deepest : List Ty → Nat
  | [] => 0
  | member :: rest => max member.depth (deepest rest)

end

@[simp] theorem depth_nominal (name : String) : (nominal name).depth = 0 := by
  simp only [depth]

@[simp] theorem depth_union (members : List Ty) :
    (union members).depth = deepest members + 1 := by
  simp only [depth]

/-- The deepest of some types stays within a bound exactly when all of them do. -/
theorem deepest_le_iff {members : List Ty} {bound : Nat} :
    deepest members ≤ bound ↔ ∀ member ∈ members, member.depth ≤ bound := by
  induction members with
  | nil => simp [deepest]
  | cons member rest ih => rw [deepest, Nat.max_le, ih, List.forall_mem_cons]

theorem depth_le_deepest {members : List Ty} {member : Ty} (hmember : member ∈ members) :
    member.depth ≤ deepest members :=
  deepest_le_iff.mp (Nat.le_refl _) member hmember

/-- A union goes deeper than each of its members. -/
theorem depth_lt_of_isMember {member type : Ty} (h : member.IsMember type) :
    member.depth < type.depth := by
  obtain ⟨members, rfl, hmember⟩ := h
  have hle : member.depth ≤ deepest members := depth_le_deepest hmember
  rw [depth_union]
  omega

/-- A union goes deeper than the members of its members, and so on. -/
theorem depth_lt_of_transGen {part type : Ty} (h : Relation.TransGen IsMember part type) :
    part.depth < type.depth := by
  induction h with
  | single hmember => exact depth_lt_of_isMember hmember
  | tail _ hmember ih => exact Nat.lt_trans ih (depth_lt_of_isMember hmember)

/-- Types that are equal by structure go equally deep: each member of either one is as deep as some
member of the other. -/
theorem depth_eq_of_eqStructure {a b : Ty} (h : a.eqStructure b = true) : a.depth = b.depth := by
  induction a using Ty.induction generalizing b with
  | nominal name => rw [eq_nominal_of_eqStructure h]
  | union as ih =>
    cases b with
    | nominal name => simp at h
    | union bs =>
      have hforth : ∀ a ∈ as, a.depth ≤ deepest bs := by
        intro a ha
        obtain ⟨b, ⟨_, hunion, hb⟩, heq⟩ := exists_member_of_eqStructure h ha
        cases hunion
        rw [ih a ha heq]
        exact depth_le_deepest hb
      have hback : ∀ b ∈ bs, b.depth ≤ deepest as := by
        intro b hb
        rw [eqStructure_comm] at h
        obtain ⟨a, ⟨_, hunion, ha⟩, heq⟩ := exists_member_of_eqStructure h hb
        cases hunion
        rw [eqStructure_comm] at heq
        rw [← ih a ha heq]
        exact depth_le_deepest ha
      have hle : deepest as ≤ deepest bs := deepest_le_iff.mpr hforth
      have hge : deepest bs ≤ deepest as := deepest_le_iff.mpr hback
      rw [depth_union, depth_union]
      omega

/-- What occurs in a type does not go as deep as the type. -/
theorem depth_lt_of_occursIn {member type : Ty} (h : member.OccursIn type) :
    member.depth < type.depth := by
  obtain ⟨part, hpart, heq⟩ := h
  rw [← depth_eq_of_eqStructure heq]
  exact depth_lt_of_isMember hpart

end Ty

end Narrowing
