import Narrowing.Proofs.Json.Printing
import Narrowing.Proofs.Reading.Checks
import Narrowing.Proofs.Ty.Written

/-!
# Reading type references

A value is read as a reference exactly when there are only strings and arrays in it. The reference
is the same tree then, and so is the type that it stands for, if no array is empty. This is so for
the value itself and for every text that writes it, as long as arrays are not nested more deeply
than they may be.
-/

namespace Narrowing

/-- There are only strings and arrays in a value, at any depth. -/
inductive Json.Value.OnlyStringsAndArrays : Json.Value → Prop where
  /-- A string is one of both. -/
  | string (value : String) : OnlyStringsAndArrays (.string value)
  /-- An array is one of both, and so must be what is in it. -/
  | array {elements : List Json.Value}
    (helements : ∀ element ∈ elements, OnlyStringsAndArrays element) :
    OnlyStringsAndArrays (.array elements)

namespace TypeRef

theorem toValues_eq_map (references : List TypeRef) :
    toValues references = references.map toValue := by
  induction references with
  | nil => simp [toValues]
  | cons reference rest ih => simp [toValues, ih]

theorem ofValues_eq_mapM (values : List Json.Value) : ofValues values = values.mapM ofValue := by
  induction values with
  | nil => simp [ofValues, pure, Except.pure]
  | cons value rest ih => rw [ofValues, List.mapM_cons, ih]

/-- Values are read as references if each of them is. -/
theorem ofValues_eq_ok_iff {values : List Json.Value} {references : List TypeRef} :
    ofValues values = .ok references ↔
      List.Forall₂ (fun value reference => ofValue value = .ok reference) values references := by
  rw [ofValues_eq_mapM, mapM_eq_ok_iff]

/-- What a value is read as is written as that very value. -/
theorem toValue_of_ofValue {value : Json.Value} {reference : TypeRef}
    (h : ofValue value = .ok reference) : reference.toValue = value := by
  induction value using Json.Value.induction generalizing reference with
  | string name =>
    rw [ofValue, Except.ok.injEq] at h
    rw [← h, toValue]
  | array elements ih =>
    rw [ofValue, bind_eq_ok_iff] at h
    obtain ⟨members, hmembers, hunion⟩ := h
    rw [ofValues_eq_ok_iff] at hmembers
    have helements : members.map toValue = elements := by
      clear hunion
      induction hmembers with
      | nil => rfl
      | cons hfirst _ ihRest =>
        have hrest := ihRest fun element helement => ih element (List.mem_cons_of_mem _ helement)
        rw [List.map_cons, ih _ List.mem_cons_self hfirst, hrest]
    rw [← pure_eq_ok_iff.mp hunion, toValue, toValues_eq_map, helements]
  | null | bool | number | object => simp [ofValue] at h

/-- A value is read as a reference exactly when the reference is written as it. -/
theorem ofValue_eq_ok_iff {value : Json.Value} {reference : TypeRef} :
    ofValue value = .ok reference ↔ reference.toValue = value := by
  constructor
  · exact toValue_of_ofValue
  · rintro rfl
    exact ofValue_toValue reference

/-- References are written with strings and arrays only. -/
theorem onlyStringsAndArrays_toValue (reference : TypeRef) :
    reference.toValue.OnlyStringsAndArrays := by
  induction reference using TypeRef.induction with
  | named name =>
    rw [toValue]
    exact .string name
  | union members ih =>
    rw [toValue, toValues_eq_map]
    refine .array fun element helement => ?_
    obtain ⟨member, hmember, rfl⟩ := List.mem_map.mp helement
    exact ih member hmember

/-- A value is read as some reference exactly when there are only strings and arrays in it. -/
theorem exists_ofValue_iff {value : Json.Value} :
    (∃ reference, ofValue value = .ok reference) ↔ value.OnlyStringsAndArrays := by
  constructor
  · rintro ⟨reference, hreference⟩
    rw [← ofValue_eq_ok_iff.mp hreference]
    exact reference.onlyStringsAndArrays_toValue
  · intro honly
    induction honly with
    | string name => exact ⟨.named name, by simp only [ofValue]⟩
    | @array elements _ ih =>
      obtain ⟨members, hmembers⟩ := exists_forall₂ ih
      refine ⟨.union members, ?_⟩
      rw [ofValue, ofValues_eq_ok_iff.mpr hmembers]
      rfl

/-- There is one way for a value to be no reference. -/
theorem eq_noTypeReference_of_ofValue {value : Json.Value} {error : ReadError}
    (h : ofValue value = .error error) : error = .noTypeReference := by
  induction value using Json.Value.induction with
  | string name => simp [ofValue] at h
  | array elements ih =>
    rw [ofValue, bind_eq_error_iff] at h
    rcases h with helements | ⟨members, _, hpure⟩
    · rw [ofValues_eq_mapM] at helements
      obtain ⟨element, helement, herror⟩ := exists_error_of_mapM helements
      exact ih element helement herror
    · exact (pure_ne_error hpure).elim
  | null | bool | number | object => simpa [ofValue, eq_comm] using h

/-- A text that writes a value is read as what the value is read as. -/
theorem text_reader_eq {value : Json.Value} {source : String} (hsource : value.WrittenBy source)
    (hnesting : value.nesting ≤ Json.nestingLimit) :
    Reader.text reader source = ofValue value := by
  refine Reader.text_of_outcome (fun depth node htake => ?_) hsource hnesting
  rw [reader, htake, Reader.lift, mapError_ok, ok_bind]

/-- A value, and every text that writes it, is read as a reference exactly when there are only
strings and arrays in it, and the reference is the same tree. It stands for a type exactly when no
array in it is empty, and the type is the same tree again; otherwise the failure is that a union is
not well formed. -/
theorem references_read_as_trees (value : Json.Value) :
    (∀ source, value.WrittenBy source → value.nesting ≤ Json.nestingLimit →
      Reader.text reader source = ofValue value) ∧
    ((∃ reference, ofValue value = .ok reference) ↔ value.OnlyStringsAndArrays) ∧
    (∀ error, ofValue value = .error error → error = .noTypeReference) ∧
    ∀ reference, ofValue value = .ok reference →
      reference.toValue = value ∧
      ((∃ type, reference.resolve = .ok type) ↔ reference.Populated) ∧
      (∀ type, reference.resolve = .ok type → type.asReference = reference) ∧
      ∀ failure, reference.resolve = .error failure → failure.kind = "invalid-union" := by
  refine ⟨fun source => text_reader_eq, exists_ofValue_iff,
    fun error => eq_noTypeReference_of_ofValue, fun reference hreference => ?_⟩
  refine ⟨ofValue_eq_ok_iff.mp hreference, exists_resolve_iff, fun type => asReference_of_resolve,
    fun failure hfailure => ?_⟩
  rw [eq_emptyUnion_of_resolve hfailure]
  rfl

/-- A nested array with a repeated string in it is read from its text, order and repetitions
included, and stands for the union of the same shape. With an empty array next to it, it is still
read, but stands for nothing. With a truth value in it, it is not read. -/
theorem repeated_reference_read :
    let pair := Json.Value.array [.string "b", .string "a", .string "b"]
    let value := Json.Value.array [.string "int", pair]
    let hollow := Json.Value.array [value, .array [.array []]]
    let mixed := Json.Value.array [value, .bool true]
    let type := Ty.union [.nominal "int", .union [.nominal "b", .nominal "a", .nominal "b"]]
    value.WrittenBy value.text ∧ value.nesting ≤ Json.nestingLimit ∧
      Reader.text reader value.text = .ok type.asReference ∧
      type.asReference.resolve = .ok type ∧
      (∀ reference, ofValue hollow = .ok reference → ∃ failure,
        reference.resolve = .error failure ∧ failure.kind = "invalid-union") ∧
      hollow.OnlyStringsAndArrays ∧ ¬ mixed.OnlyStringsAndArrays ∧
      ofValue mixed = .error .noTypeReference := by
  intro pair value hollow mixed type
  have hsource : value.WrittenBy value.text := Json.Value.writtenBy_text (by decide)
  have hnesting : value.nesting ≤ Json.nestingLimit := by decide
  obtain ⟨htext, _, _, _⟩ := references_read_as_trees value
  obtain ⟨_, hhollow, _, hreference⟩ := references_read_as_trees hollow
  obtain ⟨_, hmixed, herror, _⟩ := references_read_as_trees mixed
  have hread : ofValue value = .ok type.asReference := rfl
  have hresolve : type.asReference.resolve = .ok type := rfl
  have hreadHollow : ∃ reference, ofValue hollow = .ok reference := ⟨_, rfl⟩
  have hfails : ofValue mixed = .error .noTypeReference := rfl
  have hnot : ¬ mixed.OnlyStringsAndArrays := by
    rw [← hmixed, hfails]
    exact nofun
  refine ⟨hsource, hnesting, (htext value.text hsource hnesting).trans hread, hresolve, ?_,
    hhollow.mp hreadHollow, hnot, hfails⟩
  intro reference hsuccess
  obtain ⟨_, _, _, hkind⟩ := hreference reference hsuccess
  have hempty : reference.resolve = .error .emptyUnion := by
    obtain rfl := Except.ok.inj hsuccess
    rfl
  exact ⟨.emptyUnion, hempty, hkind _ hempty⟩

end TypeRef

end Narrowing
