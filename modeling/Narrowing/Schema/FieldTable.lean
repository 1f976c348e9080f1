import Narrowing.Schema

/-!
# Tables of fields

A table lists the known types with their fields. Types stand in ascending order of their names and
the fields of a type in ascending order, without repetitions, so two tables with the same content
are the same table. Tables carry this order with them, and every change to a table keeps it. Strings
are ordered by code point. A type may be listed with no fields at all.
-/

namespace Narrowing

/-- A list of strings in strictly ascending order, and so without repetitions. -/
abbrev Ascending (strings : List String) : Prop := strings.Pairwise (· < ·)

/-- Adds a string to an ascending list, unless it is there already. -/
def insertAscending (s : String) : List String → List String
  | [] => [s]
  | t :: rest =>
    if s < t then s :: t :: rest
    else if s = t then t :: rest
    else t :: insertAscending s rest

/-- The ascending list of the given strings, each once. -/
def ascending (strings : List String) : List String :=
  strings.foldr insertAscending []

theorem mem_insertAscending {x s : String} {l : List String} :
    x ∈ insertAscending s l ↔ x = s ∨ x ∈ l := by
  induction l with
  | nil => simp [insertAscending]
  | cons t rest ih =>
    simp only [insertAscending]
    split
    · simp
    · split
      · next heq => simp [heq]
      · simp only [List.mem_cons, ih, or_left_comm]

@[simp] theorem mem_ascending {x : String} {l : List String} : x ∈ ascending l ↔ x ∈ l := by
  induction l with
  | nil => simp [ascending]
  | cons s rest ih =>
    have hcons : ascending (s :: rest) = insertAscending s (ascending rest) := rfl
    simp [hcons, mem_insertAscending, ih]

theorem ascending_insertAscending {s : String} {l : List String} (h : Ascending l) :
    Ascending (insertAscending s l) := by
  induction l with
  | nil => simp [insertAscending]
  | cons t rest ih =>
    obtain ⟨hhead, hrest⟩ := List.pairwise_cons.mp h
    simp only [insertAscending]
    split
    · next hlt =>
      refine List.pairwise_cons.mpr ⟨fun u hu => ?_, h⟩
      rcases List.mem_cons.mp hu with rfl | hu
      · exact hlt
      · exact String.lt_trans hlt (hhead u hu)
    · next hnot =>
      split
      · exact h
      · next hne =>
        have hlt : t < s := by
          rw [← String.not_le]
          exact fun hle => hne (String.le_antisymm hle (String.not_lt.mp hnot))
        refine List.pairwise_cons.mpr ⟨fun u hu => ?_, ih hrest⟩
        rcases mem_insertAscending.mp hu with rfl | hu
        · exact hlt
        · exact hhead u hu

theorem ascending_foldr_insertAscending {l : List String} (h : Ascending l)
    (strings : List String) : Ascending (strings.foldr insertAscending l) := by
  induction strings with
  | nil => exact h
  | cons s rest ih => exact ascending_insertAscending ih

theorem ascending_ascending (strings : List String) : Ascending (ascending strings) :=
  ascending_foldr_insertAscending .nil strings

/-- The fields of each listed type, by ascending type name. -/
@[ext]
structure FieldTable where
  /-- The listed types, each with its fields. -/
  entries : List (String × List String)
  /-- The types ascend. -/
  types_ascending : Ascending (entries.map Prod.fst) := by decide
  /-- The fields of each type ascend. -/
  fields_ascending : ∀ entry ∈ entries, Ascending entry.2 := by decide
  deriving Repr, DecidableEq

namespace FieldTable

/-- The table that lists no type. -/
def empty : FieldTable where
  entries := []

instance : Inhabited FieldTable := ⟨empty⟩

/-- The fields of a listed type, in ascending order. -/
def fields? (table : FieldTable) (typeName : String) : Option (List String) :=
  table.entries.lookup typeName

/-- Whether the table gives the type the field. -/
def hasField (table : FieldTable) (typeName field : String) : Bool :=
  (table.fields? typeName).any (·.contains field)

/-- Puts `change none` or `change (some fields)` in place of the entry of a type, according to
whether the type is listed. -/
def alterEntries (typeName : String) (change : Option (List String) → List String) :
    List (String × List String) → List (String × List String)
  | [] => [(typeName, change none)]
  | (name, fields) :: rest =>
    if typeName < name then (typeName, change none) :: (name, fields) :: rest
    else if typeName = name then (name, change (some fields)) :: rest
    else (name, fields) :: alterEntries typeName change rest

/-- Changing the entry of a type leaves the types as they are, except that it adds its own. -/
theorem keys_alterEntries (typeName : String) (change : Option (List String) → List String)
    (entries : List (String × List String)) :
    (alterEntries typeName change entries).map Prod.fst =
      insertAscending typeName (entries.map Prod.fst) := by
  induction entries with
  | nil => rfl
  | cons entry rest ih =>
    simp only [alterEntries, List.map_cons, insertAscending]
    split
    · rfl
    · split
      · rfl
      · simp [ih]

/-- Changing the entry of a type leaves the fields of all types ascending if it puts ascending
fields there. -/
theorem ascending_of_mem_alterEntries {typeName : String}
    {change : Option (List String) → List String} (hchange : ∀ known?, Ascending (change known?))
    {entries : List (String × List String)} (h : ∀ entry ∈ entries, Ascending entry.2) :
    ∀ entry ∈ alterEntries typeName change entries, Ascending entry.2 := by
  induction entries with
  | nil =>
    intro entry hentry
    rw [List.mem_singleton.mp hentry]
    exact hchange none
  | cons first rest ih =>
    obtain ⟨hfirst, hrest⟩ := List.forall_mem_cons.mp h
    simp only [alterEntries]
    split
    · exact List.forall_mem_cons.mpr ⟨hchange none, h⟩
    · split
      · exact List.forall_mem_cons.mpr ⟨hchange (some first.2), hrest⟩
      · exact List.forall_mem_cons.mpr ⟨hfirst, ih hrest⟩

/-- Changes the entry of a type, to fields that ascend. -/
def alter (table : FieldTable) (typeName : String) (change : Option (List String) → List String)
    (hchange : ∀ known?, Ascending (change known?)) : FieldTable where
  entries := alterEntries typeName change table.entries
  types_ascending := by
    rw [keys_alterEntries]
    exact ascending_insertAscending table.types_ascending
  fields_ascending := ascending_of_mem_alterEntries hchange table.fields_ascending

/-- Lists a type with further fields; those it has already are kept. -/
def register (table : FieldTable) (typeName : String) (fields : List String) : FieldTable :=
  table.alter typeName (fun known? => (known?.getD []).foldr insertAscending (ascending fields))
    fun _ => ascending_foldr_insertAscending (ascending_ascending fields) _

/-- The table with further fields for a type, for tables that are written down type by type. -/
def withType (table : FieldTable) (typeName : String) (fields : List String) : FieldTable :=
  table.register typeName fields

/-- Lists a type with exactly the given fields. -/
def replace (table : FieldTable) (typeName : String) (fields : List String) : FieldTable :=
  table.alter typeName (fun _ => ascending fields) fun _ => ascending_ascending fields

/-- The table of the listed types; of two lists for one type the later one counts. -/
def ofList (lists : List (String × List String)) : FieldTable :=
  lists.foldl (fun table (typeName, fields) => table.replace typeName fields) empty

/-- The schema that a table stands for. -/
def toSchema (table : FieldTable) : Schema := ⟨table.hasField⟩

end FieldTable

end Narrowing
