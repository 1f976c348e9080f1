import Narrowing.Proofs.Json.Printing
import Narrowing.Proofs.Reading.Checks
import Narrowing.Proofs.Schema.FieldTable
import Narrowing.Reading.Script

/-!
# Reading scripts

A script can be written as a text in many ways. The members of all its objects may come in any
order, with other members among them; what has its default may be left out; and the text may be
spaced and spelled in any way. Every text that writes a script is read as exactly that script,
unless arrays and objects are nested more deeply than they may be.
-/

namespace Narrowing

/-- A value writes a setting: its name, as a string or as the only key of an object. -/
def UnionEquality.WrittenAs (equality : UnionEquality) (value : Json.Value) : Prop :=
  value = .string equality.keyword ∨ value = .object [(equality.keyword, .null)]

theorem UnionEquality.reads_of_writtenAs {equality : UnionEquality} {value : Json.Value}
    (h : equality.WrittenAs value) : reader.Reads value equality := by
  rcases h with rfl | rfl
  · exact Reader.reads_word equality.ofKeyword?_keyword
  · exact Reader.reads_word_object equality.ofKeyword?_keyword

namespace Config

/-- An object writes a configuration: its setting may be left out if it is the default. -/
def WrittenAs (config : Config) (value : Json.Value) : Prop :=
  ∃ members, value = .object members ∧ Json.GivenOnce ["union-equality"] members ∧
    Json.Member members "union-equality" config.unionEquality.WrittenAs
      (config.unionEquality = .byName)

theorem reads_of_writtenAs {config : Config} {value : Json.Value} (h : config.WrittenAs value) :
    reader.Reads value config := by
  obtain ⟨members, rfl, honce, hequality⟩ := h
  have hfollowed : Field.FollowedBy [equalityField] members fun keys =>
      readAfter keys "union-equality" config.unionEquality := by
    constructor
    · intro field hfield keys
      obtain rfl := List.mem_singleton.mp hfield
      exact isSome_readAfter
    · intro field hfield value hvalue keys
      obtain rfl := List.mem_singleton.mp hfield
      exact (UnionEquality.reads_of_writtenAs (hequality.1 value hvalue)).change <| by
        simp [equalityField]
    · intro key hkey keys
      exact readAfter_cons_of_ne (hkey equalityField List.mem_cons_self)
  intro depth node htake
  have hrecord : Field.readRecord "struct CheckerConfig" [equalityField] none depth node =
      .ok (readAfter (Json.keysMet members []) "union-equality" config.unionEquality) :=
    Field.reads_record hfollowed "struct CheckerConfig" honce depth node htake
  have hdefault := hequality.getD_readAfter
  rw [reader, hrecord, ok_bind]
  cases hread : readAfter (Json.keysMet members []) "union-equality" config.unionEquality with
  | none =>
    rw [hread, Option.getD_none] at hdefault
    exact congrArg (fun equality => Except.ok (Config.mk equality)) hdefault
  | some equality =>
    rw [hread, Option.getD_some] at hdefault
    exact congrArg (fun equality => Except.ok (Config.mk equality)) hdefault

end Config

namespace FieldTable

/-- An object writes a table: it lists the types of the table, in any order and each once, with
their fields, in any order and any number of times. -/
def WrittenAs (table : FieldTable) (value : Json.Value) : Prop :=
  ∃ lists : List (String × List String),
    value = .object (lists.map fun entry => (entry.1, .array (entry.2.map .string))) ∧
      (lists.map Prod.fst).Nodup ∧ table.Lists lists

/-- The object that lists types with their fields. -/
def objectOf (lists : List (String × List String)) : Json.Value :=
  .object (lists.map fun entry => (entry.1, .array (entry.2.map .string)))

/-- An object of arrays of strings is read as the table of the types that it lists. -/
theorem reads_objectOf (lists : List (String × List String)) :
    reader.Reads (objectOf lists) (ofList lists) := by
  refine Reader.Reads.change (Reader.reads_map ?_) rfl
  rw [List.forall₂_map_left_iff, List.forall₂_same]
  exact fun entry _ => ⟨rfl, Reader.reads_strings entry.2⟩

theorem reads_of_writtenAs {table : FieldTable} {value : Json.Value} (h : table.WrittenAs value) :
    reader.Reads value table := by
  obtain ⟨lists, rfl, hnodup, hlists⟩ := h
  have hreads := reads_objectOf lists
  rwa [ofList_eq hnodup hlists] at hreads

/-- A table that may not be there is read, too. -/
theorem reads_optional {table? : Option FieldTable} {value : Json.Value}
    (h : table?.elim (value = .null) fun table => table.WrittenAs value) :
    (Reader.optional reader).Reads value table? := by
  cases table? with
  | none =>
    obtain rfl : value = .null := h
    exact Reader.reads_optional_none reader
  | some table =>
    have hreads : reader.Reads value table := reads_of_writtenAs h
    obtain ⟨lists, rfl, -⟩ := h
    exact Reader.reads_optional_some hreads (by simp)

end FieldTable

namespace Declaration

/-- An object writes a declaration: its name and its type. -/
def WrittenAs (declaration : Declaration) (value : Json.Value) : Prop :=
  ∃ members, value = .object members ∧ Json.GivenOnce ["name", "type"] members ∧
    Json.Member members "name" (· = .string declaration.name) False ∧
    Json.Member members "type" (· = declaration.type.toValue) False

/-- What has been read of a declaration after the keys that were met. -/
def draftAfter (declaration : Declaration) (keys : List String) : Draft where
  name? := readAfter keys "name" declaration.name
  type? := readAfter keys "type" declaration.type

theorem reads_of_writtenAs {declaration : Declaration} {value : Json.Value}
    (h : declaration.WrittenAs value) : reader.Reads value declaration := by
  obtain ⟨members, rfl, honce, hname, htype⟩ := h
  have hfollowed : Field.FollowedBy [nameField, typeField] members declaration.draftAfter := by
    constructor
    · intro field hfield keys
      simp only [List.mem_cons, List.not_mem_nil, or_false] at hfield
      rcases hfield with rfl | rfl <;> exact isSome_readAfter
    · intro field hfield value hvalue keys
      simp only [List.mem_cons, List.not_mem_nil, or_false] at hfield
      rcases hfield with rfl | rfl
      · obtain rfl := hname.1 value hvalue
        exact (Reader.reads_string declaration.name).change <| by
          simp [draftAfter, nameField, readAfter_cons_of_ne]
      · obtain rfl := htype.1 value hvalue
        exact declaration.type.reads_toValue.change <| by
          simp [draftAfter, typeField, readAfter_cons_of_ne]
    · intro key hkey keys
      have hnameKey : "name" ≠ key := hkey nameField (by simp)
      have htypeKey : "type" ≠ key := hkey typeField (by simp)
      simp only [draftAfter, readAfter_cons_of_ne hnameKey, readAfter_cons_of_ne htypeKey]
  intro depth node htake
  have hrecord : Field.readRecord "struct SymbolDecl" [nameField, typeField] {} depth node =
      .ok (declaration.draftAfter (Json.keysMet members [])) :=
    Field.reads_record hfollowed "struct SymbolDecl" honce depth node htake
  simp only [reader, hrecord, ok_bind, draftAfter, hname.readAfter_eq, htype.readAfter_eq]
  rfl

end Declaration

theorem Check.forall₂_of_writtenAll {checks : List Check} {values : List Json.Value}
    (h : WrittenAll checks values) : List.Forall₂ WrittenAs checks values := by
  induction checks generalizing values with
  | nil =>
    obtain rfl : values = [] := h
    exact .nil
  | cons check rest ih =>
    obtain ⟨value, others, rfl, hcheck, hrest⟩ := h
    exact .cons hcheck (ih hrest)

namespace Script

/-- An object writes a script: its configuration, its table of fields, its declarations and its
checks. Each of them may be left out if it is the default, and a table that is not there may also be
`null`. -/
def WrittenAs (script : Script) (value : Json.Value) : Prop :=
  ∃ members, value = .object members ∧
    Json.GivenOnce ["config", "fields", "symbols", "checks"] members ∧
    Json.Member members "config" script.config.WrittenAs (script.config = {}) ∧
    Json.Member members "fields"
      (fun value => script.fields?.elim (value = .null) fun table => table.WrittenAs value)
      (script.fields? = none) ∧
    Json.Member members "symbols"
      (fun value => ∃ values, value = .array values ∧
        List.Forall₂ Declaration.WrittenAs script.declarations values)
      (script.declarations = []) ∧
    Json.Member members "checks"
      (fun value => ∃ values, value = .array values ∧ Check.WrittenAll script.checks values)
      (script.checks = [])

/-- What has been read of a script after the keys that were met. -/
def draftAfter (script : Script) (keys : List String) : Draft where
  config? := readAfter keys "config" script.config
  fields? := readAfter keys "fields" script.fields?
  declarations? := readAfter keys "symbols" script.declarations
  checks? := readAfter keys "checks" script.checks

theorem reads_of_writtenAs {script : Script} {value : Json.Value} (h : script.WrittenAs value) :
    reader.Reads value script := by
  obtain ⟨members, rfl, honce, hconfig, hfields, hdeclarations, hchecks⟩ := h
  have hfollowed : Field.FollowedBy recordFields members script.draftAfter := by
    constructor
    · intro field hfield keys
      simp only [recordFields, List.mem_cons, List.not_mem_nil, or_false] at hfield
      rcases hfield with rfl | rfl | rfl | rfl <;> exact isSome_readAfter
    · intro field hfield value hvalue keys
      simp only [recordFields, List.mem_cons, List.not_mem_nil, or_false] at hfield
      rcases hfield with rfl | rfl | rfl | rfl
      · exact (Config.reads_of_writtenAs (hconfig.1 value hvalue)).change <| by
          simp [draftAfter, readAfter_cons_of_ne]
      · exact (FieldTable.reads_optional (hfields.1 value hvalue)).change <| by
          simp [draftAfter, readAfter_cons_of_ne]
      · obtain ⟨values, rfl, hvalues⟩ := hdeclarations.1 value hvalue
        have hreads : List.Forall₂ Declaration.reader.Reads values script.declarations :=
          (hvalues.imp fun _ _ => Declaration.reads_of_writtenAs).flip
        exact (Reader.reads_list hreads).change <| by simp [draftAfter, readAfter_cons_of_ne]
      · obtain ⟨values, rfl, hvalues⟩ := hchecks.1 value hvalue
        have hreads : List.Forall₂ Check.reader.Reads values script.checks :=
          ((Check.forall₂_of_writtenAll hvalues).imp fun _ _ => Check.reads_of_writtenAs).flip
        exact (Reader.reads_list hreads).change <| by simp [draftAfter, readAfter_cons_of_ne]
    · intro key hkey keys
      simp only [recordFields, List.forall_mem_cons] at hkey
      simp only [draftAfter, readAfter_cons_of_ne hkey.1, readAfter_cons_of_ne hkey.2.1,
        readAfter_cons_of_ne hkey.2.2.1, readAfter_cons_of_ne hkey.2.2.2.1]
  have hfinish : (script.draftAfter (Json.keysMet members [])).finish = script := by
    simp only [draftAfter, Draft.finish, hconfig.getD_readAfter, hfields.join_readAfter,
      hdeclarations.getD_readAfter, hchecks.getD_readAfter]
  exact (Field.reads_record hfollowed "struct Script" honce).change hfinish

/-- Every text that writes a script is read as that script, if arrays and objects are not nested
more deeply in it than they may be. -/
theorem ofText_of_writtenAs {script : Script} {value : Json.Value} {source : String}
    (hscript : script.WrittenAs value) (hsource : value.WrittenBy source)
    (hnesting : value.nesting ≤ Json.nestingLimit) : ofText source = .ok script := by
  rw [ofText, Reader.text_of_reads (reads_of_writtenAs hscript) hsource hnesting, mapError_ok]

/-- A script with a table of its own and a test that guards an access. -/
def guarding : Script where
  fields? := some { entries := [("Point", ["x", "y"])] }
  declarations := [⟨"p", .union [.named "int", .named "Point"]⟩]
  checks := [.test ⟨some "p", none⟩ (.named "Point") [.access ⟨some "p", none⟩ "x"]]

/-- A value that writes the access, with its tag after its fields. -/
def guardedValue : Json.Value := .object [
  ("field", .string "x"), ("then", .null), ("symbol", .string "p"), ("op", .string "field")]

/-- A value that writes the test, with its tag after its fields and the guarded check before
them. -/
def guardValue : Json.Value := .object [
  ("then", .array [guardedValue]),
  ("target", .string "Point"),
  ("type", .null),
  ("line", .object [("op", .string "is"), ("op", .string "is")]),
  ("symbol", .string "p"),
  ("op", .string "is")]

/-- A value that writes the script, with its members in another order and with some that mean
nothing. -/
def guardingValue : Json.Value := .object [
  ("op", .array [.bool true, .null]),
  ("checks", .array [guardValue]),
  ("fields", .object [("Point", .array [.string "y", .string "x", .string "y"])]),
  ("symbols", .array [.object [
    ("type", .array [.string "int", .string "Point"]), ("name", .string "p")]])]

theorem guarding_ofText :
    guarding.WrittenAs guardingValue ∧ guardingValue.WrittenBy guardingValue.text ∧
      guardingValue.nesting ≤ Json.nestingLimit ∧
      ofText guardingValue.text = .ok guarding := by
  have htable : FieldTable.ofList [("Point", ["y", "x", "y"])] =
      { entries := [("Point", ["x", "y"])] } := by
    decide
  have hguarded : (Check.access ⟨some "p", none⟩ "x").WrittenAs guardedValue :=
    ⟨_, rfl, by decide, ⟨by simp, by simp⟩,
      ⟨⟨by simp [Json.Value.ofOption], by simp⟩, ⟨by simp, by simp⟩⟩, ⟨by simp, by simp⟩⟩
  have hguard : (Check.test ⟨some "p", none⟩ (.named "Point")
      [.access ⟨some "p", none⟩ "x"]).WrittenAs guardValue := by
    refine ⟨_, rfl, by decide, ⟨by simp, by simp⟩,
      ⟨⟨by simp [Json.Value.ofOption], by simp⟩, ⟨by simp [Json.Value.ofOption], by simp⟩⟩,
      ⟨by simp [TypeRef.toValue], by simp⟩, ⟨fun value hvalue => ?_, by simp⟩⟩
    obtain rfl : value = .array [guardedValue] := by simpa using hvalue
    exact ⟨_, rfl, _, [], rfl, hguarded, rfl⟩
  have hwritten : guarding.WrittenAs guardingValue := by
    refine ⟨_, rfl, by decide, ⟨by simp, fun _ => rfl⟩, ⟨?_, by simp⟩, ⟨?_, by simp⟩,
      ⟨?_, by simp⟩⟩
    · intro value hvalue
      obtain rfl : value = .object [("Point", .array [.string "y", .string "x", .string "y"])] := by
        simpa using hvalue
      exact ⟨[("Point", ["y", "x", "y"])], rfl, by decide,
        htable ▸ FieldTable.lists_ofList (by decide)⟩
    · intro value hvalue
      obtain rfl : value = .array [.object [
          ("type", .array [.string "int", .string "Point"]), ("name", .string "p")]] := by
        simpa using hvalue
      refine ⟨_, rfl, .cons ⟨_, rfl, by decide, ⟨?_, by simp⟩, ⟨?_, by simp⟩⟩ .nil⟩
      · simp
      · simp [TypeRef.toValue, TypeRef.toValues]
    · intro value hvalue
      obtain rfl : value = .array [guardValue] := by simpa using hvalue
      exact ⟨_, rfl, _, [], rfl, hguard, rfl⟩
  have hsource : guardingValue.WrittenBy guardingValue.text := Json.Value.writtenBy_text (by decide)
  have hnesting : guardingValue.nesting ≤ Json.nestingLimit := by decide
  exact ⟨hwritten, hsource, hnesting, ofText_of_writtenAs hwritten hsource hnesting⟩

end Script

end Narrowing
