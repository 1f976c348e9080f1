import Narrowing.Proofs.Reading.Reads

/-!
# Reading the members of an object

The members of an object that writes a record may stand in any order, and among them there may be
members that the record does not know, whatever their values. What a record reader has read at some
point depends only on which keys it has met, provided that no known key is given twice.
-/

namespace Narrowing

namespace Json

/-- None of the known keys is given twice. -/
def GivenOnce (known : List String) (members : List (String × Value)) : Prop :=
  ∀ key ∈ known, (members.map Prod.fst).count key ≤ 1

instance (known : List String) (members : List (String × Value)) :
    Decidable (GivenOnce known members) :=
  inferInstanceAs (Decidable (∀ key ∈ known, (members.map Prod.fst).count key ≤ 1))

/-- What an object has under a key: a value of some kind, or no value at all in some cases. -/
def Member (members : List (String × Value)) (key : String) (present : Value → Prop)
    (absent : Prop) : Prop :=
  (∀ value, (key, value) ∈ members → present value) ∧ (key ∉ members.map Prod.fst → absent)

/-- The keys that have been met after further members, given those that were met before. -/
def keysMet : List (String × Value) → List String → List String
  | [], keys => keys
  | (key, _) :: rest, keys => keysMet rest (key :: keys)

theorem mem_keysMet {key : String} {members : List (String × Value)} {keys : List String} :
    key ∈ keysMet members keys ↔ key ∈ keys ∨ key ∈ members.map Prod.fst := by
  induction members generalizing keys with
  | nil => simp [keysMet]
  | cons member rest ih =>
    rw [keysMet, ih, List.mem_cons, List.map_cons, List.mem_cons, or_assoc, or_left_comm]

theorem GivenOnce.mono {known known' : List String} {members : List (String × Value)}
    (h : GivenOnce known members) (hsubset : known' ⊆ known) : GivenOnce known' members :=
  fun key hkey => h key (hsubset hkey)

/-- Members can be gone through one by one, while the keys that are met are put aside: no known key
is met a second time. -/
theorem GivenOnce.induction {known : List String} {members : List (String × Value)}
    (honce : GivenOnce known members) {motive : List (String × Value) → List String → Prop}
    (nil : ∀ keys, motive [] keys)
    (cons : ∀ key value rest keys, (key, value) ∈ members → (key ∈ known → key ∉ keys) →
      motive rest (key :: keys) → motive ((key, value) :: rest) keys) : motive members [] := by
  have hsuffix : ∀ given keys, given ⊆ members →
      (∀ key ∈ known, (given.map Prod.fst).count key + keys.count key ≤ 1) →
      motive given keys := by
    intro given
    induction given with
    | nil => exact fun keys _ _ => nil keys
    | cons member rest ih =>
      obtain ⟨key, value⟩ := member
      intro keys hsubset hcount
      refine cons key value rest keys (hsubset List.mem_cons_self) (fun hkey hmem => ?_)
        (ih (key :: keys) (fun member hmember => hsubset (List.mem_cons_of_mem _ hmember))
          fun other hother => ?_)
      · have hkey := hcount key hkey
        rw [← List.count_pos_iff] at hmem
        simp only [List.map_cons, List.count_cons_self] at hkey
        omega
      · have hother := hcount other hother
        simp only [List.map_cons, List.count_cons] at hother ⊢
        omega
  exact hsuffix members [] (List.Subset.refl members) fun key hkey => by
    simpa using honce key hkey

end Json

/-- What has been read of a field after the keys that were met: its value if its own key is among
them. -/
def readAfter {α : Type} (keys : List String) (name : String) (value : α) : Option α :=
  if name ∈ keys then some value else none

section

variable {α : Type} {keys : List String} {name : String} {value : α}

@[simp] theorem readAfter_nil : readAfter [] name value = none := rfl

@[simp] theorem readAfter_cons_self : readAfter (name :: keys) name value = some value := by
  simp [readAfter]

@[simp] theorem isSome_readAfter : (readAfter keys name value).isSome = keys.contains name := by
  by_cases h : name ∈ keys <;> simp [readAfter, h]

theorem readAfter_cons_of_ne {key : String} (h : name ≠ key) :
    readAfter (key :: keys) name value = readAfter keys name value := by
  simp [readAfter, h]

theorem readAfter_of_mem (h : name ∈ keys) : readAfter keys name value = some value := if_pos h

theorem readAfter_of_not_mem (h : name ∉ keys) : readAfter keys name value = none := if_neg h

end

namespace Json.Member

variable {α : Type} {members : List (String × Value)} {key : String} {present : Value → Prop}

/-- A member that must not be absent is read in the end. -/
theorem readAfter_eq (h : Member members key present False) (value : α) :
    readAfter (keysMet members []) key value = some value := by
  refine readAfter_of_mem (mem_keysMet.mpr (.inr ?_))
  by_contra hkey
  exact h.2 hkey

/-- A member that may only be absent where it says nothing is nothing if it is not read. -/
theorem join_readAfter {content? : Option α} (h : Member members key present (content? = none)) :
    (readAfter (keysMet members []) key content?).join = content? := by
  by_cases hkey : key ∈ keysMet members []
  · rw [readAfter_of_mem hkey, Option.join_some]
  · rw [readAfter_of_not_mem hkey, Option.join_none]
    exact (h.2 fun hmem => hkey (mem_keysMet.mpr (.inr hmem))).symm

/-- A member that may only be absent where it has its default is the default if it is not read. -/
theorem getD_readAfter {value default : α} (h : Member members key present (value = default)) :
    (readAfter (keysMet members []) key value).getD default = value := by
  by_cases hkey : key ∈ keysMet members []
  · rw [readAfter_of_mem hkey, Option.getD_some]
  · rw [readAfter_of_not_mem hkey, Option.getD_none]
    exact (h.2 fun hmem => hkey (mem_keysMet.mpr (.inr hmem))).symm

end Json.Member

namespace Field

variable {σ : Type}

/-- A record reader is followed by a state for each list of keys that it has met: a field counts as
given when its key was met, reading a field leads to the state with its key, and other keys change
nothing. -/
structure FollowedBy (fields : List (Field σ)) (members : List (String × Json.Value))
    (state : List String → σ) : Prop where
  /-- A field counts as given when its key was met. -/
  isGiven : ∀ field ∈ fields, ∀ keys, field.isGiven (state keys) = keys.contains field.name
  /-- Reading a field leads to the state with its key. -/
  read : ∀ field ∈ fields, ∀ value, (field.name, value) ∈ members → ∀ keys,
    (field.read (state keys)).Reads value (state (field.name :: keys))
  /-- Keys of no field change nothing. -/
  skip : ∀ key, (∀ field ∈ fields, field.name ≠ key) → ∀ keys, state (key :: keys) = state keys

variable {fields : List (Field σ)} {members : List (String × Json.Value)}
  {state : List String → σ}

/-- The members of an object are read as the state after all its keys. -/
theorem readMembers_of_followedBy (h : FollowedBy fields members state)
    (honce : Json.GivenOnce (fields.map Field.name) members) {depth : Nat}
    {nodes : List (Json.Node × Json.Node)}
    (htake : Json.Node.takeMembers depth nodes = .ok members) :
    readMembers fields depth nodes (state []) = .ok (state (Json.keysMet members [])) := by
  refine honce.induction (motive := fun given keys => ∀ nodes,
    Json.Node.takeMembers depth nodes = .ok given →
    readMembers fields depth nodes (state keys) = .ok (state (Json.keysMet given keys)))
    ?_ ?_ nodes htake
  · intro keys nodes htake
    rw [Json.Node.takeMembers_eq_ok_iff] at htake
    cases htake
    rfl
  · intro key value rest keys hmember hnew ih nodes htake
    rw [Json.Node.takeMembers_eq_ok_iff] at htake
    obtain ⟨node, nodes, ⟨hkey, hvalue⟩, hnodes, rfl⟩ := List.forall₂_cons_right_iff.mp htake
    have hrest := ih nodes (Json.Node.takeMembers_eq_ok_iff.mpr hnodes)
    rw [readMembers, hkey, Reader.lift, mapError_ok, ok_bind]
    cases hfind : fields.find? (·.name == key) with
    | none =>
      have hunknown : ∀ field ∈ fields, field.name ≠ key := by simpa using hfind
      rw [h.skip key hunknown keys] at hrest
      simp only [Json.Node.pass_of_take hvalue, Reader.lift, mapError_ok, ok_bind, hrest]
      rfl
    | some field =>
      have hfield : field ∈ fields := List.mem_of_find?_eq_some hfind
      obtain rfl : field.name = key := by simpa using List.find?_some hfind
      have hgiven : field.isGiven (state keys) = false := by
        rw [h.isGiven field hfield, List.contains_eq_mem, decide_eq_false_iff_not]
        exact hnew (List.mem_map_of_mem hfield)
      have hread := h.read field hfield value hmember keys depth node.2 hvalue
      simp only [hgiven, hread, ok_bind, Bool.false_eq_true, if_false, hrest]
      rfl

/-- An object is read as the state after all its keys. -/
theorem reads_record (h : FollowedBy fields members state) (title : String)
    (honce : Json.GivenOnce (fields.map Field.name) members) :
    (readRecord title fields (state [])).Reads (.object members)
      (state (Json.keysMet members [])) := by
  intro depth node htake
  obtain ⟨nodes, inner, rfl, hopen, hmembers⟩ := Json.Node.take_eq_object_iff.mp htake
  have hread := readMembers_of_followedBy h honce hmembers
  simp only [readRecord, Reader.openNested, hopen, Reader.lift, mapError_ok, ok_bind, hread]
  rfl

end Field

end Narrowing
