import Mathlib.Logic.Relation
import Narrowing.Proofs.Ty.Canonical

/-!
# Structural equality as an equivalence

Canonical forms make structural equality an equivalence relation. Reordering the members of a union
and repeating one of them, at any depth, never changes the canonical form, and between types of the
same form such changes lead from one to the other.
-/

namespace Narrowing

/-- One change to nested unions that leaves the members of each as a set, whatever else the unions
are made of. -/
inductive Rearranged {α : Type} (union : List α → α) : α → α → Prop
  /-- The members of a union change places. -/
  | reorder {as bs : List α} : as.Perm bs → Rearranged union (union as) (union bs)
  /-- A member of a union is repeated. -/
  | again {member : α} {members : List α} : member ∈ members →
      Rearranged union (union members) (union (member :: members))
  /-- A change is made inside a member of a union. -/
  | inside {before after : List α} {member member' : α} : Rearranged union member member' →
      Rearranged union (union (before ++ member :: after)) (union (before ++ member' :: after))

/-- If a relation holds between any two unions that cover each other under it, and between each
thing and itself, it outlasts a change. -/
theorem Rearranged.related {α : Type} {union : List α → α} {R : α → α → Prop} (hrefl : ∀ a, R a a)
    (hcover : ∀ as bs, (∀ a ∈ as, ∃ b ∈ bs, R a b) → (∀ b ∈ bs, ∃ a ∈ as, R a b) →
      R (union as) (union bs)) {a b : α} (h : Rearranged union a b) : R a b := by
  induction h with
  | reorder hperm =>
    apply hcover
    · exact fun a ha => ⟨a, hperm.mem_iff.mp ha, hrefl a⟩
    · exact fun b hb => ⟨b, hperm.mem_iff.mpr hb, hrefl b⟩
  | again hmember =>
    apply hcover
    · exact fun a ha => ⟨a, List.mem_cons_of_mem _ ha, hrefl a⟩
    · intro b hb
      rcases List.mem_cons.mp hb with rfl | hb
      · exact ⟨b, hmember, hrefl b⟩
      · exact ⟨b, hb, hrefl b⟩
  | @inside before after member member' _ ih =>
    apply hcover
    · intro a ha
      rw [List.mem_append, List.mem_cons] at ha
      rcases ha with ha | rfl | ha
      · exact ⟨a, by simp [ha], hrefl a⟩
      · exact ⟨member', by simp, ih⟩
      · exact ⟨a, by simp [ha], hrefl a⟩
    · intro b hb
      rw [List.mem_append, List.mem_cons] at hb
      rcases hb with hb | rfl | hb
      · exact ⟨b, by simp [hb], hrefl b⟩
      · exact ⟨member, by simp, ih⟩
      · exact ⟨b, by simp [hb], hrefl b⟩

/-- What changes of order and of repetition, at any depth, lead to from each other. -/
def Rearrangeable {α : Type} (union : List α → α) : α → α → Prop :=
  Relation.EqvGen (Rearranged union)

namespace Ty

/-- Every type is equal to itself by structure. -/
@[simp] theorem eqStructure_refl (a : Ty) : a.eqStructure a = true :=
  (eqStructure_iff a a).mpr rfl

/-- Structural equality does not depend on which type comes first. -/
theorem eqStructure_comm (a b : Ty) : a.eqStructure b = b.eqStructure a := by
  rw [Bool.eq_iff_iff, eqStructure_iff, eqStructure_iff]
  exact eq_comm

/-- Types that are equal by structure to the same type are equal by structure to each other. -/
theorem eqStructure_trans {a b c : Ty} (hab : a.eqStructure b = true)
    (hbc : b.eqStructure c = true) : a.eqStructure c = true := by
  rw [eqStructure_iff] at hab hbc ⊢
  exact hab.trans hbc

/-- Types that are equal by structure compare alike with every other pair of such types. -/
theorem eqStructure_congr {a a' b b' : Ty} (ha : a.eqStructure a' = true)
    (hb : b.eqStructure b' = true) : a.eqStructure b = a'.eqStructure b' := by
  rw [eqStructure_iff] at ha hb
  rw [Bool.eq_iff_iff, eqStructure_iff, eqStructure_iff, ha, hb]

/-- Two unions are equal by structure when each covers the other: the second test is the first one
with the unions exchanged. -/
theorem eqStructure_union_covers (as bs : List Ty) :
    (union as).eqStructure (union bs) =
      ((as.all fun a => bs.any fun b => a.eqStructure b) &&
        bs.all fun b => as.any fun a => b.eqStructure a) := by
  rw [eqStructure_union]
  simp only [eqStructure_comm]

/-- Rearrangeable types have the same canonical form. -/
theorem canonical_eq_of_rearrangeable {a b : Ty} (h : Rearrangeable union a b) :
    a.canonical = b.canonical := by
  induction h with
  | rel a b h =>
    apply h.related (R := fun a b : Ty => a.canonical = b.canonical)
    · exact fun _ => rfl
    · exact fun as bs hleft hright => canonical_union_eq_iff.mpr ⟨hleft, hright⟩
  | refl _ => rfl
  | symm _ _ _ ih => exact ih.symm
  | trans _ _ _ _ _ ih₁ ih₂ => exact ih₁.trans ih₂

/-- Any changes may be made inside a member of a union. -/
theorem rearrangeable_inside {before after : List Ty} {member member' : Ty}
    (h : Rearrangeable union member member') :
    Rearrangeable union (union (before ++ member :: after))
      (union (before ++ member' :: after)) := by
  induction h with
  | rel _ _ h => exact .rel _ _ h.inside
  | refl _ => exact .refl _
  | symm _ _ _ ih => exact ih.symm
  | trans _ _ _ _ _ ih₁ ih₂ => exact ih₁.trans _ _ _ ih₂

/-- All members of a union may be exchanged for rearrangeable ones. -/
theorem rearrangeable_members {as bs : List Ty} (h : List.Forall₂ (Rearrangeable union) as bs)
    (before after : List Ty) :
    Rearrangeable union (union (before ++ (as ++ after))) (union (before ++ (bs ++ after))) := by
  induction h generalizing before with
  | nil => exact .refl _
  | @cons a b as bs hab _ ih =>
    have hrest := ih (before ++ [b])
    simp only [List.append_assoc, List.singleton_append] at hrest
    exact (rearrangeable_inside hab).trans _ _ _ hrest

/-- Members that a union has already may be added to it. -/
theorem rearrangeable_append {as bs : List Ty} (h : bs ⊆ as) :
    Rearrangeable union (union as) (union (bs ++ as)) := by
  induction bs with
  | nil => exact .refl _
  | cons b bs ih =>
    obtain ⟨hb, hbs⟩ := List.cons_subset.mp h
    have hagain : Rearranged union (union (bs ++ as)) (union (b :: (bs ++ as))) :=
      .again (List.mem_append_right bs hb)
    exact (ih hbs).trans _ _ _ (.rel _ _ hagain)

/-- Partners that all members have in a list form a list of their own. -/
private theorem exists_forall₂_subset {R : Ty → Ty → Prop} {as bs : List Ty}
    (h : ∀ a ∈ as, ∃ b ∈ bs, R a b) : ∃ partners, List.Forall₂ R as partners ∧ partners ⊆ bs := by
  induction as with
  | nil => exact ⟨[], .nil, by simp⟩
  | cons a as ih =>
    obtain ⟨b, hb, hab⟩ := h a (by simp)
    obtain ⟨partners, hpartners, hsubset⟩ := ih fun a' ha' => h a' (by simp [ha'])
    exact ⟨b :: partners, .cons hab hpartners, List.cons_subset.mpr ⟨hb, hsubset⟩⟩

/-- Types of the same canonical form are rearrangeable. Each side of two unions first takes up
copies of its own members for those of the other side; member by member, the two lists then agree
up to order and repetition. -/
theorem rearrangeable_of_canonical_eq {a b : Ty} (h : a.canonical = b.canonical) :
    Rearrangeable union a b := by
  induction a using Ty.induction generalizing b with
  | nominal name =>
    cases b with
    | nominal name' =>
      have hname : name = name' := by simpa [canonical] using h
      rw [hname]
      exact .refl _
    | union bs => simp [canonical] at h
  | union as ih =>
    cases b with
    | nominal name => simp [canonical] at h
    | union bs =>
      obtain ⟨hleft, hright⟩ := canonical_union_eq_iff.mp h
      obtain ⟨bs', hforth, hbs'⟩ : ∃ bs', List.Forall₂ (Rearrangeable union) as bs' ∧ bs' ⊆ bs := by
        apply exists_forall₂_subset
        intro a ha
        obtain ⟨b, hb, heq⟩ := hleft a ha
        exact ⟨b, hb, ih a ha heq⟩
      obtain ⟨as', hback, has'⟩ :
          ∃ as', List.Forall₂ (flip (Rearrangeable union)) bs as' ∧ as' ⊆ as := by
        apply exists_forall₂_subset
        intro b hb
        obtain ⟨a, ha, heq⟩ := hright b hb
        exact ⟨a, ha, ih a ha heq⟩
      have hfirst : Rearrangeable union (union as) (union (as' ++ as)) := rearrangeable_append has'
      have hsecond : Rearrangeable union (union (as' ++ as)) (union (bs ++ as)) := by
        simpa using rearrangeable_members hback.flip [] as
      have hthird : Rearrangeable union (union (bs ++ as)) (union (bs ++ bs')) := by
        simpa using rearrangeable_members hforth bs []
      have hfourth : Rearrangeable union (union (bs ++ bs')) (union (bs' ++ bs)) :=
        .rel _ _ (.reorder List.perm_append_comm)
      have hlast : Rearrangeable union (union bs) (union (bs' ++ bs)) := rearrangeable_append hbs'
      exact hfirst.trans _ _ _ (hsecond.trans _ _ _
        (hthird.trans _ _ _ (hfourth.trans _ _ _ hlast.symm)))

/-- Structural equality is sameness of canonical forms. It is therefore an equivalence relation that
no change of order or of repetition, at any depth and on either side, has an influence on, and such
changes lead from any type to all those that are equal to it. -/
theorem eqStructure_characterization :
    (∀ a b : Ty, a.eqStructure b = true ↔ a.canonical = b.canonical) ∧
      Equivalence (fun a b : Ty => a.eqStructure b = true) ∧
      (∀ a b : Ty, a.eqStructure b = true ↔ Rearrangeable union a b) ∧
      ∀ a a' b b' : Ty, Rearrangeable union a a' → Rearrangeable union b b' →
        a.eqStructure b = a'.eqStructure b' := by
  refine ⟨eqStructure_iff, ⟨eqStructure_refl, ?_, eqStructure_trans⟩, fun a b => ?_, ?_⟩
  · intro a b hab
    rw [eqStructure_comm]
    exact hab
  · rw [eqStructure_iff]
    exact ⟨rearrangeable_of_canonical_eq, canonical_eq_of_rearrangeable⟩
  · intro a a' b b' ha hb
    exact eqStructure_congr ((eqStructure_iff a a').mpr (canonical_eq_of_rearrangeable ha))
      ((eqStructure_iff b b').mpr (canonical_eq_of_rearrangeable hb))

/-- Two nested unions, rearranged inside and outside, compare with a third one as before. -/
theorem eqStructure_rearranged_pair :
    let pair := union [nominal "a", nominal "b"]
    let pair' := union [nominal "b", nominal "a"]
    Rearrangeable union (union [pair, nominal "c"]) (union [nominal "c", pair', pair']) ∧
      (union [pair, nominal "c"]).eqStructure (union [nominal "c", pair]) =
        (union [nominal "c", pair', pair']).eqStructure (union [nominal "c", pair]) := by
  intro pair pair'
  have hpair : Rearranged union pair pair' := .reorder (.swap _ _ _)
  have hinside : Rearranged union (union ([] ++ pair :: [nominal "c"]))
      (union ([] ++ pair' :: [nominal "c"])) := .inside hpair
  have hagain : Rearranged union (union [pair', nominal "c"]) (union [pair', pair', nominal "c"]) :=
    .again (by simp)
  have hreorder : Rearranged union (union [pair', pair', nominal "c"])
      (union [nominal "c", pair', pair']) := .reorder (List.perm_append_singleton _ [pair', pair'])
  have h : Rearrangeable union (union [pair, nominal "c"]) (union [nominal "c", pair', pair']) :=
    .trans _ _ _ (.rel _ _ hinside) (.trans _ _ _ (.rel _ _ hagain) (.rel _ _ hreorder))
  exact ⟨h, eqStructure_characterization.2.2.2 _ _ _ _ h (.refl _)⟩

end Ty

end Narrowing
