import Mathlib.Data.List.Induction
import Narrowing.Proofs.Reading.Reports
import Narrowing.Proofs.Reading.Scripts
import Narrowing.Writing

/-!
# The content of tables

A table is put together by calls that list types with fields, or read from a text that writes an
object of arrays. Either way it is told by its content: which types are named, and which fields are
given to each of them. In calls the fields for a type add up; in an object the last list for a type
counts, as if nothing but this list had been registered for it. A table is written as an object,
whose members may come in any order, and is read from it again.
-/

namespace Narrowing

namespace FieldTable

/-! ### Calls -/

/-- A call that lists a type with fields. -/
inductive Call where
  /-- Further fields for a type are registered with a table. -/
  | register (typeName : String) (fields : List String)
  /-- A table that is written down gets further fields for a type. -/
  | withType (typeName : String) (fields : List String)
  deriving Repr, DecidableEq

namespace Call

/-- The type that a call names. -/
def typeName : Call → String
  | register typeName _ | withType typeName _ => typeName

/-- The fields that a call gives to the type. -/
def fields : Call → List String
  | register _ fields | withType _ fields => fields

/-- The table after a call. -/
def perform (table : FieldTable) : Call → FieldTable
  | register typeName fields => table.register typeName fields
  | withType typeName fields => table.withType typeName fields

theorem perform_eq_register (table : FieldTable) (call : Call) :
    perform table call = table.register call.typeName call.fields := by
  cases call <;> rfl

end Call

/-- The table that calls make of the empty one, one after the other. -/
def ofCalls (calls : List Call) : FieldTable := calls.foldl Call.perform empty

/-- A call names a type. -/
def Names (calls : List Call) (typeName : String) : Prop :=
  ∃ call ∈ calls, call.typeName = typeName

/-- A call gives a field to a type. -/
def Gives (calls : List Call) (typeName field : String) : Prop :=
  ∃ call ∈ calls, call.typeName = typeName ∧ field ∈ call.fields

/-- Calls name the same types as others and give the same fields to each of them, all in all. -/
structure SameContent (calls calls' : List Call) : Prop where
  /-- The types are the same. -/
  types : ∀ typeName, Names calls typeName ↔ Names calls' typeName
  /-- The fields of each type are the same. -/
  fields : ∀ typeName field, Gives calls typeName field ↔ Gives calls' typeName field

/-- What a table answers after calls. -/
structure Answers (table : FieldTable) (calls : List Call) : Prop where
  /-- A type has a field exactly if a call gave it the field. -/
  hasField : ∀ typeName field, table.hasField typeName field = true ↔ Gives calls typeName field
  /-- A type has no list of fields exactly if no call named it. -/
  unlisted : ∀ typeName, table.fields? typeName = none ↔ ¬ Names calls typeName
  /-- The fields of a type are those that it was given, each once and in ascending order of code
  points. -/
  listed : ∀ typeName fields, table.fields? typeName = some fields →
    Ascending fields ∧ fields.Nodup ∧ ∀ field, field ∈ fields ↔ Gives calls typeName field

theorem ofCalls_append_singleton (calls : List Call) (call : Call) :
    ofCalls (calls ++ [call]) = (ofCalls calls).register call.typeName call.fields := by
  rw [ofCalls, List.foldl_append, List.foldl_cons, List.foldl_nil, Call.perform_eq_register,
    ← ofCalls]

/-- A table has what the calls that made it list. -/
theorem lists_ofCalls (calls : List Call) :
    (ofCalls calls).Lists (calls.map fun call => (call.typeName, call.fields)) := by
  induction calls using List.reverseRecOn with
  | nil => exact lists_empty
  | append_singleton calls call ih =>
    rw [ofCalls_append_singleton, List.map_append, List.map_singleton]
    exact ih.register call.typeName call.fields

theorem names_iff {calls : List Call} {typeName : String} :
    typeName ∈ (calls.map fun call => (call.typeName, call.fields)).map Prod.fst ↔
      Names calls typeName := by
  simp [Names]

theorem gives_iff {calls : List Call} {typeName field : String} :
    (∃ fields, (typeName, fields) ∈ calls.map (fun call => (call.typeName, call.fields)) ∧
      field ∈ fields) ↔ Gives calls typeName field := by
  constructor
  · rintro ⟨fields, hfields, hfield⟩
    obtain ⟨call, hcall, heq⟩ := List.mem_map.mp hfields
    cases heq
    exact ⟨call, hcall, rfl, hfield⟩
  · rintro ⟨call, hcall, rfl, hfield⟩
    exact ⟨call.fields, List.mem_map.mpr ⟨call, hcall, rfl⟩, hfield⟩

theorem hasField_ofCalls {calls : List Call} {typeName field : String} :
    (ofCalls calls).hasField typeName field = true ↔ Gives calls typeName field :=
  ((lists_ofCalls calls).fields typeName field).trans gives_iff

theorem answers_ofCalls (calls : List Call) : (ofCalls calls).Answers calls where
  hasField _ _ := hasField_ofCalls
  unlisted typeName := by
    rw [← names_iff, ← (lists_ofCalls calls).types, mem_types_iff, Bool.not_eq_true,
      Option.isSome_eq_false_iff, Option.isNone_iff_eq_none]
  listed typeName fields hfields := by
    have hascending := ascending_of_fields? hfields
    refine ⟨hascending, hascending.nodup, fun field => ?_⟩
    rw [← hasField_ofCalls, hasField_eq_true_iff, hfields]
    simp

/-- Calls make the same table exactly if they have the same content. -/
theorem ofCalls_eq_iff {calls calls' : List Call} :
    ofCalls calls = ofCalls calls' ↔ SameContent calls calls' := by
  rw [eq_iff_of_lists (lists_ofCalls calls) (lists_ofCalls calls')]
  simp only [names_iff, gives_iff]
  exact ⟨fun h => ⟨h.1, h.2⟩, fun h => ⟨h.types, h.fields⟩⟩

/-- Neither the order nor the repetition of calls is of any importance. -/
theorem sameContent_of_mem_iff {calls calls' : List Call}
    (h : ∀ call, call ∈ calls ↔ call ∈ calls') : SameContent calls calls' where
  types typeName := by simp only [Names, h]
  fields typeName field := by simp only [Gives, h]

/-- Two calls do together what one call does. -/
structure Call.SplitInto (call first second : Call) : Prop where
  /-- The first call is for the same type. -/
  typeName_first : first.typeName = call.typeName
  /-- So is the second call. -/
  typeName_second : second.typeName = call.typeName
  /-- Each field is given by one of the two calls at least. -/
  fields : ∀ field, field ∈ call.fields ↔ field ∈ first.fields ∨ field ∈ second.fields

/-- It is of no importance whether fields are given to a type in one call or in two. -/
theorem sameContent_of_splitInto {call first second : Call} (h : call.SplitInto first second)
    (before after : List Call) :
    SameContent (before ++ call :: after) (before ++ first :: second :: after) where
  types typeName := by
    simp [Names, or_and_right, exists_or, h.typeName_first, h.typeName_second]
  fields typeName field := by
    simp [Gives, or_and_right, exists_or, h.typeName_first, h.typeName_second, h.fields,
      and_or_left, or_assoc]

/-! ### Objects -/

/-- An object of arrays of strings has no numbers and no more than two brackets open at once. -/
theorem objectOf_plain (lists : List (String × List String)) :
    (objectOf lists).numberFree = true ∧ (objectOf lists).nesting ≤ 2 := by
  rw [objectOf, Json.Value.numberFree, Json.Value.nesting]
  induction lists with
  | nil => simp [Json.Value.membersNumberFree, Json.Value.memberNesting]
  | cons entry rest ih =>
    obtain ⟨hfree, hnesting⟩ := Json.Value.strings_plain entry.2
    simp only [List.map_cons, Json.Value.membersNumberFree, Json.Value.memberNesting,
      Json.Value.numberFree, Json.Value.nesting, hfree, hnesting, Bool.true_and]
    exact ⟨ih.1, by omega⟩

/-- A text that writes an object of arrays of strings is read as the table of the types that the
object lists. -/
theorem text_reader_objectOf {lists : List (String × List String)} {source : String}
    (h : (objectOf lists).WrittenBy source) : Reader.text reader source = .ok (ofList lists) :=
  Reader.text_of_reads (reads_objectOf lists) h ((objectOf_plain lists).2.trans (by decide))

/-- A table has what it lists. -/
theorem lists_entries (table : FieldTable) : table.Lists table.entries where
  types _ := Iff.rfl
  fields typeName field := by
    rw [hasField_eq_true_iff]
    simp only [fields?_eq_some_iff_mem]

/-- The entries of a table make the table again, in whatever order they are listed. -/
theorem ofList_entries {table : FieldTable} {entries : List (String × List String)}
    (hperm : entries.Perm table.entries) : ofList entries = table := by
  have htypes : (entries.map Prod.fst).Perm table.types := hperm.map Prod.fst
  refine ofList_eq (htypes.nodup_iff.mpr table.types_ascending.nodup)
    ⟨fun typeName => ?_, fun _ _ => ?_⟩
  · exact htypes.mem_iff.symm
  · simp only [table.lists_entries.fields, hperm.mem_iff]

/-- The lists that are not followed by another list for the same type. -/
def lastLists : List (String × List String) → List (String × List String)
  | [] => []
  | (typeName, fields) :: rest =>
    if typeName ∈ rest.map Prod.fst then lastLists rest
    else (typeName, fields) :: lastLists rest

/-- Some list for a type is the last one for this type. -/
theorem mem_types_lastLists {lists : List (String × List String)} {typeName : String} :
    typeName ∈ (lastLists lists).map Prod.fst ↔ typeName ∈ lists.map Prod.fst := by
  induction lists with
  | nil => rfl
  | cons entry rest ih =>
    obtain ⟨name, fields⟩ := entry
    rw [lastLists]
    split
    · next hlater =>
      rw [ih, List.map_cons, List.mem_cons]
      exact ⟨.inr, fun h => h.elim (fun heq => heq ▸ hlater) id⟩
    · rw [List.map_cons, List.map_cons, List.mem_cons, List.mem_cons, ih]

/-- There is one last list for a type at most. -/
theorem nodup_types_lastLists (lists : List (String × List String)) :
    ((lastLists lists).map Prod.fst).Nodup := by
  induction lists with
  | nil => exact .nil
  | cons entry rest ih =>
    obtain ⟨name, fields⟩ := entry
    rw [lastLists]
    split
    · exact ih
    · next hlast => exact List.nodup_cons.mpr ⟨fun h => hlast (mem_types_lastLists.mp h), ih⟩

/-- From the end, the same list for a type is met among all lists and among the last ones. -/
theorem lookup_reverse_lastLists (lists : List (String × List String)) (typeName : String) :
    (lastLists lists).reverse.lookup typeName = lists.reverse.lookup typeName := by
  induction lists with
  | nil => rfl
  | cons entry rest ih =>
    obtain ⟨name, fields⟩ := entry
    rw [lastLists]
    split
    · next hlater =>
      rw [List.reverse_cons, List.lookup_append, ih, lookup_cons_eq_ite]
      split
      · next heq =>
        -- A later list for the type is met first.
        have hfound : rest.reverse.lookup typeName ≠ none := by
          rw [Ne, lookup_eq_none_iff_not_mem, List.map_reverse, List.mem_reverse, not_not, heq]
          exact hlater
        obtain ⟨found, hfound⟩ := Option.ne_none_iff_exists'.mp hfound
        rw [hfound, Option.some_or]
      · rw [List.lookup_nil, Option.or_none]
    · rw [List.reverse_cons, List.reverse_cons, List.lookup_append, List.lookup_append, ih]

/-- The registrations of the last list for each type. -/
def registrations (lists : List (String × List String)) : List Call :=
  (lastLists lists).map fun entry => .register entry.1 entry.2

/-- Listing types is registering the last list for each of them. -/
theorem ofList_eq_ofCalls (lists : List (String × List String)) :
    ofList lists = ofCalls (registrations lists) := by
  have hlast : ofList lists = ofList (lastLists lists) := by
    refine eq_of_fields? fun typeName => ?_
    rw [fields?_ofList, fields?_ofList, lookup_reverse_lastLists]
  have hlisted : (registrations lists).map (fun call => (call.typeName, call.fields)) =
      lastLists lists := by
    rw [registrations, List.map_map]
    exact List.map_id _
  have hlists := lists_ofCalls (registrations lists)
  rw [hlisted] at hlists
  rw [hlast]
  exact ofList_eq (nodup_types_lastLists lists) hlists

theorem toValue_eq (table : FieldTable) : table.toValue = objectOf table.entries := rfl

/-- The object that a table is written as is read as the table, whatever the order of its types. -/
theorem text_reader_of_perm {table : FieldTable} {entries : List (String × List String)}
    {source : String} (hperm : entries.Perm table.entries)
    (hsource : (objectOf entries).WrittenBy source) : Reader.text reader source = .ok table := by
  rw [text_reader_objectOf hsource, ofList_entries hperm]

/-- Tables are told by their content. After calls a table has for each type that was named the
fields that were given to it, in ascending order; two series of calls make the same table exactly if
they name the same types and give them the same fields, so it does not matter in which order calls
are made, how often, and how they are split. Every table is read from what it is written as, with
its types in any order, and every object of arrays of strings is read as what the registration of
the last list for each type would make. -/
theorem content_determines_table (calls calls' : List Call) (table : FieldTable)
    (lists : List (String × List String)) :
    (ofCalls calls).Answers calls ∧
      (ofCalls calls = ofCalls calls' ↔ SameContent calls calls') ∧
      ((∀ call, call ∈ calls ↔ call ∈ calls') → ofCalls calls = ofCalls calls') ∧
      (∀ call first second before after, Call.SplitInto call first second →
        ofCalls (before ++ call :: after) = ofCalls (before ++ first :: second :: after)) ∧
      (∀ entries source, entries.Perm table.entries → (objectOf entries).WrittenBy source →
        Reader.text reader source = .ok table) ∧
      reader.ofValue table.toValue = .ok table ∧
      ∀ source, (objectOf lists).WrittenBy source →
        Reader.text reader source = .ok (ofCalls (registrations lists)) := by
  refine ⟨answers_ofCalls calls, ofCalls_eq_iff,
    fun hcalls => ofCalls_eq_iff.mpr (sameContent_of_mem_iff hcalls),
    fun _ _ _ before after hsplit => ?_, fun _ _ => text_reader_of_perm, ?_,
    fun source hsource => ?_⟩
  · exact ofCalls_eq_iff.mpr (sameContent_of_splitInto hsplit before after)
  · have hfree := (objectOf_plain table.entries).1
    rw [Reader.ofValue, toValue_eq]
    exact text_reader_of_perm (.refl _) (Json.Value.writtenBy_text hfree)
  · rw [text_reader_objectOf hsource, ofList_eq_ofCalls]

/-- Points that were given their fields in two calls, with a type between that has no fields. The
same calls in another order make the same table, as does a single call for the points. The table is
read from the object of its types in descending order, and an object with two lists for the points
is read as if only the second of them were there. Without the type that has no fields the content is
not the same. -/
theorem points_determined :
    let calls := [Call.register "Point" ["y", "x"], .withType "Void" [],
      .register "Point" ["z", "x"]]
    let calls' := [Call.withType "Void" [], .register "Point" ["z", "x"], .withType "Void" [],
      .register "Point" ["y", "x"]]
    let whole := Call.withType "Point" ["x", "y", "z"]
    let entries := [("Void", []), ("Point", ["x", "y", "z"])]
    let lists := [("Point", ["x"]), ("Void", []), ("Point", ["y", "z", "y"])]
    (∀ call, call ∈ calls ↔ call ∈ calls') ∧ ofCalls calls = ofCalls calls' ∧
      whole.SplitInto (.register "Point" ["y", "x"]) (.register "Point" ["z", "x"]) ∧
      ofCalls [whole] = ofCalls [.register "Point" ["y", "x"], .register "Point" ["z", "x"]] ∧
      entries.Perm (ofCalls calls).entries ∧
      (objectOf entries).WrittenBy (objectOf entries).text ∧
      Reader.text reader (objectOf entries).text = .ok (ofCalls calls) ∧
      reader.ofValue (ofCalls calls).toValue = .ok (ofCalls calls) ∧
      (objectOf lists).WrittenBy (objectOf lists).text ∧
      Reader.text reader (objectOf lists).text =
        .ok (ofCalls [.register "Void" [], .register "Point" ["y", "z", "y"]]) ∧
      ¬ SameContent calls [.register "Point" ["x", "y", "z"]] := by
  intro calls calls' whole entries lists
  obtain ⟨-, -, hsame, hsplit, hread, hreadBack, hobject⟩ :=
    content_determines_table calls calls' (ofCalls calls) lists
  obtain ⟨-, hdiffer, -⟩ :=
    content_determines_table calls [.register "Point" ["x", "y", "z"]] empty []
  have hforth : ∀ call ∈ calls, call ∈ calls' := by decide
  have hback : ∀ call ∈ calls', call ∈ calls := by decide
  have hcalls : ∀ call, call ∈ calls ↔ call ∈ calls' := fun call => ⟨hforth call, hback call⟩
  have hwhole : whole.SplitInto (.register "Point" ["y", "x"]) (.register "Point" ["z", "x"]) := by
    refine ⟨rfl, rfl, fun field => ?_⟩
    simp only [whole, Call.fields, List.mem_cons, List.not_mem_nil, or_false]
    grind
  have hperm : entries.Perm (ofCalls calls).entries := by decide
  have hwritten (lists : List (String × List String)) :
      (objectOf lists).WrittenBy (objectOf lists).text :=
    Json.Value.writtenBy_text (objectOf_plain lists).1
  have hlast : registrations lists =
      [.register "Void" [], .register "Point" ["y", "z", "y"]] := by decide
  have hreadLists := hobject _ (hwritten lists)
  rw [hlast] at hreadLists
  have hne : ofCalls calls ≠ ofCalls [.register "Point" ["x", "y", "z"]] := by decide
  exact ⟨hcalls, hsame hcalls, hwhole, hsplit _ _ _ [] [] hwhole, hperm, hwritten entries,
    hread entries _ hperm (hwritten entries), hreadBack, hwritten lists, hreadLists,
    fun hcontent => hne (hdiffer.mpr hcontent)⟩

end FieldTable

end Narrowing
