import Narrowing.Proofs.Ty.Written

/-!
# Telling types by their texts

The text of a union is put together with bars and parentheses. Where no name has such a sign in it
and no union is empty, the text can be taken apart in one way only: a member that begins with a
parenthesis is a union, any other one is a name, and the signs tell where a member ends. So a
reference is told by its text. A type is told by its text up to one exception: a union of a single
nominal type has the text of that type.
-/

namespace Narrowing

namespace Ty

/-- Whether a character is a bar or a parenthesis. -/
def isSign (c : Char) : Bool := c == '|' || c == '(' || c == ')'

/-- A type without empty unions, at any depth, and without names that have signs in them. -/
inductive Legible : Ty → Prop where
  /-- A nominal type is legible if there is no sign in its name. -/
  | nominal {name : String} (hname : ∀ c ∈ name.toList, isSign c = false) : Legible (.nominal name)
  /-- A union is legible if it has members and each of them is legible. -/
  | union {members : List Ty} (hne : members ≠ [])
    (hmembers : ∀ member ∈ members, Legible member) : Legible (.union members)

/-- What can follow on a member: nothing, the end of its union, or a bar before the next member. -/
inductive EndsMember : List Char → Prop where
  /-- The text ends. -/
  | nothing : EndsMember []
  /-- The union ends. -/
  | closing (rest : List Char) : EndsMember (')' :: rest)
  /-- Another member follows. -/
  | bar (rest : List Char) : EndsMember (' ' :: '|' :: rest)

/-! ### Names -/

/-- What follows on a member is told by what it is from its first sign on. -/
theorem EndsMember.eq_of_dropWhile {rest rest' : List Char} (h : EndsMember rest)
    (h' : EndsMember rest')
    (heq : rest.dropWhile (!isSign ·) = rest'.dropWhile (!isSign ·)) : rest = rest' := by
  cases h <;> cases h' <;> simp_all [isSign]

/-- A name ends where the text goes on with the end of a member. -/
theorem name_append_inj {name name' rest rest' : List Char}
    (hname : ∀ c ∈ name, isSign c = false) (hname' : ∀ c ∈ name', isSign c = false)
    (h : EndsMember rest) (h' : EndsMember rest') (heq : name ++ rest = name' ++ rest') :
    name = name' ∧ rest = rest' := by
  have hsigns : rest.dropWhile (!isSign ·) = rest'.dropWhile (!isSign ·) := by
    have hdrop := congrArg (List.dropWhile (!isSign ·)) heq
    rwa [List.dropWhile_append_of_pos (by simpa using hname),
      List.dropWhile_append_of_pos (by simpa using hname')] at hdrop
  obtain rfl := h.eq_of_dropWhile h' hsigns
  exact ⟨List.append_cancel_right heq, rfl⟩

/-- A member that is a name does not begin with a parenthesis. -/
theorem name_append_ne {name rest : List Char} (hname : ∀ c ∈ name, isSign c = false)
    (h : EndsMember rest) (text : List Char) : name ++ rest ≠ '(' :: text := by
  intro heq
  cases name with
  | nil => cases h <;> simp at heq
  | cons c name =>
    obtain ⟨rfl, _⟩ := List.cons.inj heq
    have hsign := hname '(' List.mem_cons_self
    simp [isSign] at hsign

/-! ### Unions -/

/-- The text of further members of a union, with a bar before each of them. -/
def furtherText (members : List Ty) : List Char :=
  members.flatMap fun member => ' ' :: '|' :: ' ' :: member.asReference.text.toList

theorem furtherText_cons (member : Ty) (rest : List Ty) :
    furtherText (member :: rest) =
      ' ' :: '|' :: ' ' :: (member.asReference.text.toList ++ furtherText rest) := by
  simp [furtherText]

/-- Whether there are further members or not, a member ends there. -/
theorem endsMember_furtherText (members : List Ty) (rest : List Char) :
    EndsMember (furtherText members ++ ')' :: rest) := by
  cases members with
  | nil => exact .closing rest
  | cons member members =>
    rw [furtherText_cons]
    exact .bar _

/-- The first member of a union stands in the text without the bar that the further ones have. -/
theorem cons_toList_text_union {members : List Ty} (hne : members ≠ []) :
    ' ' :: '|' :: ' ' :: (union members).text.toList = furtherText members := by
  obtain ⟨first, others, rfl⟩ := List.exists_cons_of_ne_nil hne
  have hmembers : (" | ".intercalate ((first :: others).map fun member =>
      member.asReference.text)).toList = first.asReference.text.toList ++ furtherText others := by
    induction others generalizing first with
    | nil => simp [furtherText]
    | cons next others ih =>
      have hnext := ih next (List.cons_ne_nil next others)
      rw [List.map_cons] at hnext
      rw [List.map_cons, List.map_cons, String.intercalate_cons_cons, String.toList_append, hnext,
        furtherText_cons]
      simp
  rw [text_union, hmembers, furtherText_cons]

theorem toList_text_asReference_union (members : List Ty) :
    (union members).asReference.text.toList =
      '(' :: ((union members).text.toList ++ [')']) := by
  rw [text_asReference, isUnion_union, if_pos rfl]
  simp

/-- A type is told by its text in a reference, and so is where the text ends: no other type with any
other rest leads to the same characters. -/
def Told (type : Ty) : Prop :=
  ∀ (other : Ty) (rest rest' : List Char), other.Legible → EndsMember rest → EndsMember rest' →
    type.asReference.text.toList ++ rest = other.asReference.text.toList ++ rest' →
      type = other ∧ rest = rest'

/-- Further members are told if each of them is. -/
theorem furtherText_append_inj {others others' : List Ty} (htold : ∀ member ∈ others, member.Told)
    (hlegible : ∀ member ∈ others', member.Legible) {rest rest' : List Char}
    (heq : furtherText others ++ ')' :: rest = furtherText others' ++ ')' :: rest') :
    others = others' ∧ rest = rest' := by
  induction others generalizing others' with
  | nil =>
    cases others' with
    | nil => exact ⟨rfl, (List.cons.inj heq).2⟩
    | cons member' others' => simp [furtherText] at heq
  | cons member others ih =>
    cases others' with
    | nil => simp [furtherText] at heq
    | cons member' others' =>
      have htext : member.asReference.text.toList ++ (furtherText others ++ ')' :: rest) =
          member'.asReference.text.toList ++ (furtherText others' ++ ')' :: rest') := by
        simpa [furtherText_cons] using heq
      obtain ⟨rfl, hothers⟩ := htold member List.mem_cons_self member' _ _
        (hlegible member' List.mem_cons_self) (endsMember_furtherText others rest)
        (endsMember_furtherText others' rest') htext
      obtain ⟨rfl, hrest⟩ := ih (fun other hother => htold other (List.mem_cons_of_mem _ hother))
        (fun other hother => hlegible other (List.mem_cons_of_mem _ hother)) hothers
      exact ⟨rfl, hrest⟩

/-- Every legible type is told. -/
theorem Legible.told {type : Ty} (h : type.Legible) : type.Told := by
  induction type using Ty.induction with
  | nominal name =>
    obtain @⟨_, hname⟩ := h
    intro other rest rest' hother hrest hrest' heq
    cases hother with
    | @nominal name' hname' =>
      rw [asReference_nominal, asReference_nominal, TypeRef.text, TypeRef.text] at heq
      obtain ⟨hsame, hrest⟩ := name_append_inj hname hname' hrest hrest' heq
      exact ⟨by rw [String.toList_inj.mp hsame], hrest⟩
    | union _ _ =>
      rw [asReference_nominal, TypeRef.text, toList_text_asReference_union] at heq
      exact absurd heq (name_append_ne hname hrest _)
  | union members ih =>
    obtain _ | @⟨_, hne, hmembers⟩ := h
    intro other rest rest' hother hrest hrest' heq
    cases hother with
    | @nominal name' hname' =>
      rw [asReference_nominal, TypeRef.text, toList_text_asReference_union] at heq
      exact absurd heq.symm (name_append_ne hname' hrest' _)
    | @union members' hne' hmembers' =>
      rw [toList_text_asReference_union, toList_text_asReference_union] at heq
      have hfurther :
          furtherText members ++ ')' :: rest = furtherText members' ++ ')' :: rest' := by
        rw [← cons_toList_text_union hne, ← cons_toList_text_union hne']
        simpa using heq
      obtain ⟨rfl, hrest⟩ := furtherText_append_inj
        (fun member hmember => ih member hmember (hmembers member hmember)) hmembers' hfurther
      exact ⟨rfl, hrest⟩

/-- Legible types are written by references of different texts. -/
theorem text_asReference_inj {a b : Ty} (ha : a.Legible) (hb : b.Legible)
    (heq : a.asReference.text = b.asReference.text) : a = b := by
  have htold := ha.told b [] [] hb .nothing .nothing
  rw [heq] at htold
  exact (htold rfl).1

/-! ### The exception -/

/-- What the text of a type lists: the members of a union, or a nominal type by itself. -/
def alternatives : Ty → List Ty
  | .nominal name => [.nominal name]
  | .union members => members

/-- A type has the text of the union of its alternatives. -/
theorem text_union_alternatives (type : Ty) : (union type.alternatives).text = type.text := by
  cases type with
  | nominal name =>
    rw [alternatives, text_union, List.map_singleton, String.intercalate_singleton,
      asReference_nominal, TypeRef.text, text]
  | union members => rfl

theorem Legible.union_alternatives {type : Ty} (h : type.Legible) :
    (Ty.union type.alternatives).Legible := by
  cases h with
  | nominal hname =>
    refine .union (List.cons_ne_nil _ _) fun member hmember => ?_
    rw [List.mem_singleton.mp hmember]
    exact .nominal hname
  | union hne hmembers => exact .union hne hmembers

/-- Types with the same alternatives are the same, unless one of them is nominal and the other one
is the union of it alone. -/
theorem alternatives_eq_iff {a b : Ty} :
    a.alternatives = b.alternatives ↔
      a = b ∨ (∃ name, a = nominal name ∧ b = union [nominal name]) ∨
        ∃ name, a = union [nominal name] ∧ b = nominal name := by
  cases a <;> cases b <;> simp [alternatives, eq_comm]

/-- Legible types have the same text exactly when their alternatives are the same. -/
theorem text_eq_iff_alternatives {a b : Ty} (ha : a.Legible) (hb : b.Legible) :
    a.text = b.text ↔ a.alternatives = b.alternatives := by
  constructor
  · intro heq
    have htext : (union a.alternatives).asReference.text =
        (union b.alternatives).asReference.text := by
      rw [text_asReference, text_asReference, text_union_alternatives, text_union_alternatives, heq]
      rfl
    exact union.inj (text_asReference_inj ha.union_alternatives hb.union_alternatives htext)
  · intro heq
    rw [← text_union_alternatives a, heq, text_union_alternatives]

/-- Legible types have the same text only if they are the same type, or if one of them is nominal
and the other one is the union of it alone. References that stand for legible types have the same
text only if they are the same reference. -/
theorem text_unambiguous :
    (∀ a b : Ty, a.Legible → b.Legible →
      (a.text = b.text ↔
        a = b ∨ (∃ name, a = nominal name ∧ b = union [nominal name]) ∨
          ∃ name, a = union [nominal name] ∧ b = nominal name)) ∧
    ∀ (reference reference' : TypeRef) (a b : Ty), reference.resolve = .ok a →
      reference'.resolve = .ok b → a.Legible → b.Legible →
        (reference.text = reference'.text ↔ reference = reference') := by
  constructor
  · intro a b ha hb
    rw [text_eq_iff_alternatives ha hb, alternatives_eq_iff]
  · intro reference reference' a b hresolve hresolve' ha hb
    obtain rfl := TypeRef.asReference_of_resolve hresolve
    obtain rfl := TypeRef.asReference_of_resolve hresolve'
    constructor
    · intro heq
      rw [text_asReference_inj ha hb heq]
    · intro heq
      rw [heq]

/-- Blanks at the ends of names and a name without characters: where the names of two unions end is
still told by their texts. A nominal type and the union of it alone are not told apart as types, but
they are as references. -/
theorem text_unambiguous_with_blanks :
    let spaced := union [nominal "a ", union [nominal "", nominal "b"]]
    let shifted := union [nominal "a", union [nominal " ", nominal "b"]]
    let alone := union [nominal "a "]
    spaced.Legible ∧ shifted.Legible ∧ alone.Legible ∧ (nominal "a ").Legible ∧
      spaced.text ≠ shifted.text ∧ alone.text = (nominal "a ").text ∧
      (TypeRef.union [.named "a "]).resolve = .ok alone ∧
      (TypeRef.named "a ").resolve = .ok (nominal "a ") ∧
      (TypeRef.union [.named "a "]).text ≠ (TypeRef.named "a ").text := by
  intro spaced shifted alone
  have hspace : (nominal "a ").Legible := .nominal (by simp [isSign])
  have hinner : (union [nominal "", nominal "b"]).Legible :=
    .union (by simp) (by simpa using ⟨.nominal (by simp [isSign]), .nominal (by simp [isSign])⟩)
  have hinner' : (union [nominal " ", nominal "b"]).Legible :=
    .union (by simp) (by simpa using ⟨.nominal (by simp [isSign]), .nominal (by simp [isSign])⟩)
  have hspaced : spaced.Legible := .union (by simp) (by simpa using ⟨hspace, hinner⟩)
  have hshifted : shifted.Legible :=
    .union (by simp) (by simpa using ⟨.nominal (by simp [isSign]), hinner'⟩)
  have halone : alone.Legible := .union (by simp) (by simpa using hspace)
  obtain ⟨htypes, hreferences⟩ := text_unambiguous
  have hne : spaced.text ≠ shifted.text := by
    rw [Ne, htypes spaced shifted hspaced hshifted]
    simp [spaced, shifted]
  have heq : alone.text = (nominal "a ").text :=
    (htypes alone (nominal "a ") halone hspace).mpr (.inr (.inr ⟨"a ", rfl, rfl⟩))
  have hresolve : (TypeRef.union [.named "a "]).resolve = .ok alone := rfl
  have hresolve' : (TypeRef.named "a ").resolve = .ok (nominal "a ") := rfl
  have hneReference : (TypeRef.union [.named "a "]).text ≠ (TypeRef.named "a ").text := by
    rw [Ne, hreferences _ _ alone (nominal "a ") hresolve hresolve' halone hspace]
    exact nofun
  exact ⟨hspaced, hshifted, halone, hspace, hne, heq, hresolve, hresolve', hneReference⟩

end Ty

end Narrowing
