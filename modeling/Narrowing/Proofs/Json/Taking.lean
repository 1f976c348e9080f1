import Mathlib.Data.List.Forall2
import Narrowing.Proofs.Json.Grammar
import Narrowing.Proofs.Outcome

/-!
# Taking trees in

A tree that is taken in as a value has the shape of that value, and its parts are taken in as the
parts of the value. A tree that is taken in can also be passed over.
-/

namespace Narrowing.Json

/-- What can be taken in as a string ends with its quotation mark. -/
theorem Quotation.error?_eq_none_of_characters {ending : QuotationEnd} {pieces : List Piece}
    {chars : List Char} (h : characters ending pieces = .ok chars) : ending.error? = none := by
  fun_induction characters ending pieces generalizing chars with
  | case1 hend => exact hend
  | case3 c rest ih | case5 value second rest _ _ _ ih | case9 value rest _ _ ih =>
    obtain ⟨chars', hrest, -⟩ := bind_eq_ok_iff.mp h
    exact ih hrest
  | _ => simp at h

/-- A string that is taken in can be passed over. -/
theorem Quotation.pass_of_value {quotation : Quotation} {value : String}
    (h : quotation.value = .ok value) : quotation.pass = .ok () := by
  obtain ⟨chars, hchars, -⟩ := map_eq_ok_iff.mp h
  rw [pass, error?_eq_none_of_characters hchars]

/-- A number that is taken in can be passed over. -/
theorem NumberLexeme.pass_of_value {lexeme : NumberLexeme} {value : Number}
    (h : lexeme.value = .ok value) : lexeme.pass = .ok () := by
  cases lexeme with
  | sound numeral => rfl
  | cutOff | malformed => simp [NumberLexeme.value] at h

namespace Node

variable {depth : Nat} {node : Node}

theorem take_eq_null_iff : node.take depth = .ok .null ↔ node = .null := by
  cases node <;> simp [take, bind_eq_ok_iff, map_eq_ok_iff]

theorem take_eq_bool_iff {value : Bool} :
    node.take depth = .ok (.bool value) ↔ node = .bool value := by
  cases node <;> simp [take, bind_eq_ok_iff, map_eq_ok_iff]

theorem take_eq_number_iff {value : Number} :
    node.take depth = .ok (.number value) ↔
      ∃ lexeme : NumberLexeme, node = .number lexeme ∧ lexeme.value = .ok value := by
  cases node <;> simp [take, bind_eq_ok_iff, map_eq_ok_iff]

theorem take_eq_string_iff {value : String} :
    node.take depth = .ok (.string value) ↔
      ∃ quotation : Quotation, node = .string quotation ∧ quotation.value = .ok value := by
  cases node <;> simp [take, bind_eq_ok_iff, map_eq_ok_iff]

theorem takeKey_eq_ok_iff {key : String} :
    node.takeKey = .ok key ↔
      ∃ quotation : Quotation, node = .string quotation ∧ quotation.value = .ok key := by
  cases node <;> simp [takeKey]

/-- Trees are taken in as values if each of them is. -/
theorem takeElements_eq_ok_iff {nodes : List Node} {elements : List Value} :
    takeElements depth nodes = .ok elements ↔
      List.Forall₂ (fun node element => node.take depth = .ok element) nodes elements := by
  induction nodes generalizing elements with
  | nil => simp [takeElements, eq_comm]
  | cons node rest ih =>
    simp only [takeElements, bind_eq_ok_iff, pure_eq_ok_iff, List.forall₂_cons_left_iff, ih]
    constructor
    · rintro ⟨element, helement, elements, helements, rfl⟩
      exact ⟨element, elements, helement, helements, rfl⟩
    · rintro ⟨element, elements, helement, helements, rfl⟩
      exact ⟨element, helement, elements, helements, rfl⟩

/-- Pairs of trees are taken in as members if each of them is. -/
theorem takeMembers_eq_ok_iff {nodes : List (Node × Node)} {members : List (String × Value)} :
    takeMembers depth nodes = .ok members ↔
      List.Forall₂ (fun node member =>
        node.1.takeKey = .ok member.1 ∧ node.2.take depth = .ok member.2) nodes members := by
  induction nodes generalizing members with
  | nil => simp [takeMembers, eq_comm]
  | cons node rest ih =>
    simp only [takeMembers, bind_eq_ok_iff, pure_eq_ok_iff, List.forall₂_cons_left_iff, ih]
    constructor
    · rintro ⟨key, hkey, value, hvalue, members, hmembers, rfl⟩
      exact ⟨(key, value), members, ⟨hkey, hvalue⟩, hmembers, rfl⟩
    · rintro ⟨⟨key, value⟩, members, ⟨hkey, hvalue⟩, hmembers, rfl⟩
      exact ⟨key, hkey, value, hvalue, members, hmembers, rfl⟩

theorem take_eq_array_iff {elements : List Value} :
    node.take depth = .ok (.array elements) ↔
      ∃ nodes inner, node = .array nodes .closed ∧ openNested depth = .ok inner ∧
        takeElements inner nodes = .ok elements := by
  cases node with
  | array nodes tail =>
    cases tail <;> simp [take, bind_eq_ok_iff, Tail.checkArray, Tail.check]
  | _ => simp [take, bind_eq_ok_iff, map_eq_ok_iff]

theorem take_eq_object_iff {members : List (String × Value)} :
    node.take depth = .ok (.object members) ↔
      ∃ nodes inner, node = .object nodes .closed ∧ openNested depth = .ok inner ∧
        takeMembers inner nodes = .ok members := by
  cases node with
  | object nodes tail =>
    cases tail <;> simp [take, bind_eq_ok_iff, Tail.checkObject, Tail.check]
  | _ => simp [take, bind_eq_ok_iff, map_eq_ok_iff]

/-- A key that is taken in can be passed over. -/
theorem passKey_of_takeKey {key : String} (h : node.takeKey = .ok key) : node.passKey = .ok () := by
  obtain ⟨quotation, rfl, hvalue⟩ := takeKey_eq_ok_iff.mp h
  exact quotation.pass_of_value hvalue

/-- A tree that is taken in can be passed over. -/
theorem pass_of_take {value : Value} (h : node.take depth = .ok value) : node.pass = .ok () := by
  induction value using Value.induction generalizing node depth with
  | null => rw [take_eq_null_iff.mp h, pass]
  | bool value => rw [take_eq_bool_iff.mp h, pass]
  | number value =>
    obtain ⟨lexeme, rfl, hvalue⟩ := take_eq_number_iff.mp h
    rw [pass]
    exact lexeme.pass_of_value hvalue
  | string value =>
    obtain ⟨quotation, rfl, hvalue⟩ := take_eq_string_iff.mp h
    rw [pass]
    exact quotation.pass_of_value hvalue
  | array elements ih =>
    obtain ⟨nodes, inner, rfl, -, helements⟩ := take_eq_array_iff.mp h
    have hpass : passElements nodes = .ok () := by
      clear h
      rw [takeElements_eq_ok_iff] at helements
      induction helements with
      | nil => simp only [passElements]
      | cons hnode _ ihRest =>
        rw [passElements, ih _ List.mem_cons_self hnode, ok_bind]
        exact ihRest fun element helement => ih element (List.mem_cons_of_mem _ helement)
    rw [pass, hpass]
    rfl
  | object members ih =>
    obtain ⟨nodes, inner, rfl, -, hmembers⟩ := take_eq_object_iff.mp h
    have hpass : passMembers nodes = .ok () := by
      clear h
      rw [takeMembers_eq_ok_iff] at hmembers
      induction hmembers with
      | nil => simp only [passMembers]
      | @cons node member _ _ hnode _ ihRest =>
        rw [passMembers, passKey_of_takeKey hnode.1, ok_bind,
          ih member List.mem_cons_self hnode.2, ok_bind]
        exact ihRest fun member hmember => ih member (List.mem_cons_of_mem _ hmember)
    rw [pass, hpass]
    rfl

end Node

end Narrowing.Json
