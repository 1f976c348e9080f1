import Mathlib.Data.List.Induction
import Mathlib.Data.List.Sort
import Mathlib.Data.String.Basic
import Narrowing.Schema.FieldTable

/-!
# What tables list

A table is determined by its content, which is what the types it lists are and which fields each of
them has. For each type, what an operation puts into a table is found there afterwards, and what is
found for other types is as before. A list of types with fields is the content of a table if it
lists no type twice.
-/

namespace Narrowing

theorem mem_foldr_insertAscending {x : String} {l strings : List String} :
    x ∈ strings.foldr insertAscending l ↔ x ∈ strings ∨ x ∈ l := by
  induction strings with
  | nil => simp
  | cons s rest ih => simp [mem_insertAscending, ih, or_assoc]

/-- Ascending lists of the same strings are the same list. -/
theorem Ascending.eq_of_mem_iff {l l' : List String} (h : Ascending l) (h' : Ascending l')
    (hmem : ∀ s, s ∈ l ↔ s ∈ l') : l = l' :=
  List.Pairwise.eq_of_mem_iff h h' hmem

namespace FieldTable

/-- The types that a table lists. -/
def types (table : FieldTable) : List String := table.entries.map Prod.fst

section

variable {typeName name : String} {change : Option (List String) → List String}
  {entries : List (String × List String)}

theorem lookup_cons_eq_ite {α : Type} (key name : String) (value : α) (rest : List (String × α)) :
    ((key, value) :: rest).lookup name = if name = key then some value else rest.lookup name := by
  by_cases h : name = key
  · simp [h]
  · simp [List.lookup_cons, h, beq_eq_false_iff_ne.mpr h]

theorem lookup_eq_none_iff_not_mem {α : Type} {rest : List (String × α)} :
    rest.lookup name = none ↔ name ∉ rest.map Prod.fst := by
  induction rest with
  | nil => simp
  | cons entry rest ih =>
    obtain ⟨key, value⟩ := entry
    rw [lookup_cons_eq_ite]
    by_cases h : name = key <;> simp [h, ih]

/-- Where no key is repeated, what is found for a key is what is listed for it. -/
theorem lookup_eq_some_iff_mem {α : Type} {rest : List (String × α)} {value : α}
    (h : (rest.map Prod.fst).Nodup) : rest.lookup name = some value ↔ (name, value) ∈ rest := by
  induction rest with
  | nil => simp
  | cons entry rest ih =>
    obtain ⟨key, other⟩ := entry
    obtain ⟨hkey, hrest⟩ := List.nodup_cons.mp h
    rw [lookup_cons_eq_ite, List.mem_cons, Prod.mk.injEq, ← ih hrest]
    split
    · next heq =>
      subst heq
      simp [lookup_eq_none_iff_not_mem.mpr hkey, eq_comm]
    · next hne => simp [hne]

/-- Changing the entry of a type changes what is found for this type, and for no other. -/
theorem lookup_alterEntries (h : Ascending (entries.map Prod.fst)) :
    (alterEntries typeName change entries).lookup name =
      if name = typeName then some (change (entries.lookup typeName)) else entries.lookup name := by
  induction entries with
  | nil => simp only [alterEntries, lookup_cons_eq_ite, List.lookup_nil]
  | cons entry rest ih =>
    obtain ⟨key, fields⟩ := entry
    obtain ⟨hhead, hrest⟩ := List.pairwise_cons.mp h
    simp only [alterEntries]
    split
    · next hlt =>
      -- The type stands before all others, so it is not listed yet.
      have hnew : ((key, fields) :: rest).lookup typeName = none := by
        refine lookup_eq_none_iff_not_mem.mpr fun hmem => ?_
        rcases List.mem_cons.mp hmem with rfl | hmem
        · exact lt_irrefl _ hlt
        · exact lt_asymm hlt (hhead typeName hmem)
      rw [hnew, lookup_cons_eq_ite]
    · split
      · next heq =>
        subst heq
        simp only [lookup_cons_eq_ite, if_true]
        split <;> rfl
      · next hne =>
        simp only [lookup_cons_eq_ite, ih hrest, if_neg hne]
        by_cases hname : name = key
        · simp [hname, Ne.symm hne]
        · simp [hname]

end

variable {table table' : FieldTable}

theorem mem_types_iff {typeName : String} :
    typeName ∈ table.types ↔ (table.fields? typeName).isSome = true := by
  rw [Option.isSome_iff_ne_none, fields?, types, Ne, lookup_eq_none_iff_not_mem, not_not]

/-- A type has a field in a table exactly when the table lists the field for it. -/
theorem hasField_eq_true_iff {typeName field : String} :
    table.hasField typeName field = true ↔
      ∃ fields, table.fields? typeName = some fields ∧ field ∈ fields := by
  unfold hasField
  cases table.fields? typeName <;> simp

/-- What is found for a type is the entry of this type. -/
theorem fields?_eq_some_iff_mem {typeName : String} {fields : List String} :
    table.fields? typeName = some fields ↔ (typeName, fields) ∈ table.entries :=
  lookup_eq_some_iff_mem table.types_ascending.nodup

theorem ascending_of_fields? {typeName : String} {fields : List String}
    (h : table.fields? typeName = some fields) : Ascending fields :=
  table.fields_ascending _ (fields?_eq_some_iff_mem.mp h)

/-- What is found after a type was listed anew. -/
theorem fields?_replace (table : FieldTable) (typeName : String) (fields : List String)
    (name : String) :
    (table.replace typeName fields).fields? name =
      if name = typeName then some (ascending fields) else table.fields? name :=
  lookup_alterEntries table.types_ascending

/-- What is found after further fields were registered for a type. -/
theorem fields?_register (table : FieldTable) (typeName : String) (fields : List String)
    (name : String) :
    (table.register typeName fields).fields? name =
      if name = typeName then
        some (((table.fields? typeName).getD []).foldr insertAscending (ascending fields))
      else table.fields? name :=
  lookup_alterEntries table.types_ascending

/-- Registering fields for a type adds it to the types, unless it is one of them already. -/
theorem types_register (table : FieldTable) (typeName : String) (fields : List String) :
    (table.register typeName fields).types = insertAscending typeName table.types :=
  keys_alterEntries _ _ _

/-- Tables in which the same is found for each type are the same table. -/
theorem eq_of_fields? (h : ∀ typeName, table.fields? typeName = table'.fields? typeName) :
    table = table' := by
  have : Std.Antisymm fun entry next : String × List String => entry.1 < next.1 :=
    ⟨fun _ _ hlt hgt => absurd hgt (lt_asymm hlt)⟩
  have : Std.Irrefl fun entry next : String × List String => entry.1 < next.1 :=
    ⟨fun _ => lt_irrefl _⟩
  have hpairwise (table : FieldTable) :
      table.entries.Pairwise fun entry next => entry.1 < next.1 :=
    List.pairwise_map.mp table.types_ascending
  ext1
  refine (hpairwise table).eq_of_mem_iff (hpairwise table') fun ⟨typeName, fields⟩ => ?_
  rw [← fields?_eq_some_iff_mem, ← fields?_eq_some_iff_mem, h typeName]

/-- Tables that list the same types with the same fields are the same table. -/
theorem eq_of_content (htypes : ∀ typeName, typeName ∈ table.types ↔ typeName ∈ table'.types)
    (hfields : ∀ typeName field,
      table.hasField typeName field = true ↔ table'.hasField typeName field = true) :
    table = table' := by
  refine eq_of_fields? fun typeName => ?_
  have htype := htypes typeName
  have hfield := hfields typeName
  simp only [mem_types_iff, hasField_eq_true_iff] at htype hfield
  cases hfound : table.fields? typeName with
  | none =>
    simp only [hfound, Option.isSome_none, Bool.false_eq_true, false_iff, Bool.not_eq_true,
      Option.isSome_eq_false_iff, Option.isNone_iff_eq_none] at htype
    exact htype.symm
  | some fields =>
    simp only [hfound, Option.isSome_some, true_iff] at htype
    obtain ⟨fields', hfound'⟩ := Option.isSome_iff_exists.mp htype
    rw [hfound']
    congr 1
    refine (ascending_of_fields? hfound).eq_of_mem_iff (ascending_of_fields? hfound') ?_
    simpa [hfound, hfound'] using hfield

theorem ofList_append_singleton (lists : List (String × List String)) (typeName : String)
    (fields : List String) :
    ofList (lists ++ [(typeName, fields)]) = (ofList lists).replace typeName fields := by
  simp [ofList]

/-- For each type the table of listed types has the fields of the last list for it. -/
theorem fields?_ofList (lists : List (String × List String)) (typeName : String) :
    (ofList lists).fields? typeName = (lists.reverse.lookup typeName).map ascending := by
  induction lists using List.reverseRecOn with
  | nil => rfl
  | append_singleton lists entry ih =>
    obtain ⟨name, fields⟩ := entry
    rw [ofList_append_singleton, fields?_replace, List.reverse_append, List.reverse_singleton,
      List.singleton_append, lookup_cons_eq_ite]
    split
    · rfl
    · exact ih

/-- A table has the listed types and no others, each with the listed fields. -/
structure Lists (table : FieldTable) (lists : List (String × List String)) : Prop where
  /-- The types are those that are listed. -/
  types : ∀ typeName, typeName ∈ table.types ↔ typeName ∈ lists.map Prod.fst
  /-- The fields of each type are those that are listed for it. -/
  fields : ∀ typeName field, table.hasField typeName field = true ↔
    ∃ fields, (typeName, fields) ∈ lists ∧ field ∈ fields

/-- The empty table has no types. -/
theorem lists_empty : empty.Lists [] where
  types typeName := by simp [types, empty]
  fields typeName field := by simp [hasField, fields?, empty]

/-- Registering further fields for a type adds to what a table has. -/
theorem Lists.register {lists : List (String × List String)} (h : table.Lists lists)
    (typeName : String) (fields : List String) :
    (table.register typeName fields).Lists (lists ++ [(typeName, fields)]) where
  types name := by
    rw [types_register, mem_insertAscending, h.types]
    simp [or_comm]
  fields name field := by
    have hknown : field ∈ (table.fields? typeName).getD [] ↔
        table.hasField typeName field = true := by
      rw [hasField_eq_true_iff]
      cases table.fields? typeName <;> simp
    rw [hasField_eq_true_iff, fields?_register]
    by_cases hname : name = typeName
    · subst hname
      simp only [if_true, Option.some.injEq, exists_eq_left', mem_foldr_insertAscending,
        mem_ascending, hknown, h.fields]
      simp [or_and_right, exists_or]
    · rw [if_neg hname, ← hasField_eq_true_iff, h.fields]
      simp [hname]

/-- Tables are the same exactly if they list the same types, with the same fields. -/
theorem eq_iff_of_lists {lists lists' : List (String × List String)} (hlists : table.Lists lists)
    (hlists' : table'.Lists lists') :
    table = table' ↔
      (∀ typeName, typeName ∈ lists.map Prod.fst ↔ typeName ∈ lists'.map Prod.fst) ∧
        ∀ typeName field, (∃ fields, (typeName, fields) ∈ lists ∧ field ∈ fields) ↔
          ∃ fields, (typeName, fields) ∈ lists' ∧ field ∈ fields := by
  simp only [← hlists.types, ← hlists'.types, ← hlists.fields, ← hlists'.fields]
  constructor
  · rintro rfl
    exact ⟨fun _ => Iff.rfl, fun _ _ => Iff.rfl⟩
  · rintro ⟨htypes, hfields⟩
    exact eq_of_content htypes hfields

/-- If no type is listed twice, the listed types are the content of their table. -/
theorem lists_ofList {lists : List (String × List String)} (h : (lists.map Prod.fst).Nodup) :
    (ofList lists).Lists lists where
  types typeName := by
    rw [mem_types_iff, fields?_ofList, Option.isSome_map, Option.isSome_iff_ne_none, Ne,
      lookup_eq_none_iff_not_mem, not_not, List.map_reverse, List.mem_reverse]
  fields typeName field := by
    have hreverse : (lists.reverse.map Prod.fst).Nodup := by
      rw [List.map_reverse]
      exact List.nodup_reverse.mpr h
    simp only [hasField_eq_true_iff, fields?_ofList, Option.map_eq_some_iff,
      lookup_eq_some_iff_mem hreverse, List.mem_reverse]
    constructor
    · rintro ⟨_, ⟨fields, hfields, rfl⟩, hfield⟩
      exact ⟨fields, hfields, mem_ascending.mp hfield⟩
    · rintro ⟨fields, hfields, hfield⟩
      exact ⟨_, ⟨fields, hfields, rfl⟩, mem_ascending.mpr hfield⟩

/-- A table is the table of any list of its types, in any order and each with its fields in any
order. -/
theorem ofList_eq {lists : List (String × List String)} (hnodup : (lists.map Prod.fst).Nodup)
    (hlists : table.Lists lists) : ofList lists = table := by
  have hofList := lists_ofList hnodup
  refine eq_of_content (fun typeName => ?_) fun typeName field => ?_
  · rw [hofList.types, hlists.types]
  · rw [hofList.fields, hlists.fields]

end FieldTable

end Narrowing
