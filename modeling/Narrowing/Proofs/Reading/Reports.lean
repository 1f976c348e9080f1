import Mathlib.Data.List.Nodup
import Narrowing.Cli.Response
import Narrowing.Proofs.Json.Printing
import Narrowing.Proofs.Reading.Records
import Narrowing.Reading.Diagnostic

/-!
# Reading reports back

The machine-readable report that a check prints can be read back: the text holds the report as it
was written, and each of its diagnostics is read as the diagnostic that was reported, with the kind
and the notes that it leaves out where there are none.
-/

namespace Narrowing

/-- The value that a text holds. -/
def Json.Value.ofText (source : String) : Except ReadError Json.Value :=
  Reader.text (fun depth node => Reader.lift (node.take depth)) source

/-- What a reader makes of a value, which is what it makes of the text of the value. -/
def Reader.ofValue {α : Type} (reader : Reader α) (value : Json.Value) : Except ReadError α :=
  Reader.text reader value.text

/-- A text that writes a value holds the value. -/
theorem Json.Value.WrittenBy.ofText_eq {value : Json.Value} {source : String}
    (h : value.WrittenBy source) (hnesting : value.nesting ≤ Json.nestingLimit) :
    Json.Value.ofText source = .ok value := by
  have hreads : Reader.Reads (fun depth node => Reader.lift (node.take depth)) value value := by
    intro depth node htake
    simp only [htake, Reader.lift, mapError_ok]
  exact Reader.text_of_reads hreads h hnesting

/-- What a value without numbers is read as is made of it. -/
theorem Reader.ofValue_of_reads {α : Type} {reader : Reader α} {value : Json.Value} {result : α}
    (h : reader.Reads value result) (hfree : value.numberFree = true)
    (hnesting : value.nesting ≤ Json.nestingLimit) : reader.ofValue value = .ok result :=
  text_of_reads h (Json.Value.writtenBy_text hfree) hnesting

namespace Json.Value

theorem elementsNumberFree_iff {elements : List Value} :
    elementsNumberFree elements = true ↔ ∀ element ∈ elements, element.numberFree = true := by
  induction elements with
  | nil => simp [elementsNumberFree]
  | cons element rest ih => simp [elementsNumberFree, ih]

/-- Strings contain no numbers and no brackets. -/
theorem strings_plain (strings : List String) :
    elementsNumberFree (strings.map .string) = true ∧
      elementNesting (strings.map .string) = 0 := by
  induction strings with
  | nil => exact ⟨rfl, rfl⟩
  | cons s rest ih => simpa [elementsNumberFree, elementNesting, numberFree, nesting] using ih

end Json.Value

namespace Diagnostic

/-- The members of the object that a diagnostic is written as. -/
def members (diagnostic : Diagnostic) : List (String × Json.Value) :=
  (diagnostic.kind?.toList.map fun kind => ("kind", .string kind)) ++
    [("message", .string diagnostic.message)] ++
    (if diagnostic.notes.isEmpty then []
      else [("notes", .array (diagnostic.notes.map .string))]) ++
    [("severity", .string diagnostic.severity.keyword)]

theorem toValue_eq (diagnostic : Diagnostic) : diagnostic.toValue = .object diagnostic.members :=
  rfl

/-- What has been read of a diagnostic after the keys that were met. -/
def draftAfter (diagnostic : Diagnostic) (keys : List String) : Draft where
  severity? := readAfter keys "severity" diagnostic.severity
  kind? := readAfter keys "kind" diagnostic.kind?
  message? := readAfter keys "message" diagnostic.message
  notes? := readAfter keys "notes" diagnostic.notes

theorem followedBy_draftAfter (diagnostic : Diagnostic) :
    Field.FollowedBy recordFields diagnostic.members diagnostic.draftAfter where
  isGiven field hfield keys := by
    simp only [recordFields, List.mem_cons, List.not_mem_nil, or_false] at hfield
    rcases hfield with rfl | rfl | rfl | rfl <;> simp [draftAfter]
  read field hfield value hvalue keys := by
    simp only [recordFields, List.mem_cons, List.not_mem_nil, or_false] at hfield
    rcases hfield with rfl | rfl | rfl | rfl
    · obtain rfl : value = .string diagnostic.severity.keyword := by
        simpa [members] using hvalue
      exact (Reader.reads_word diagnostic.severity.ofKeyword?_keyword).change <| by
        simp [draftAfter, readAfter_cons_of_ne]
    · obtain ⟨kind, hkind, rfl⟩ : ∃ kind, diagnostic.kind? = some kind ∧ .string kind = value := by
        simpa [members] using hvalue
      exact (Reader.reads_optional_some (Reader.reads_string kind) (by simp)).change <| by
        simp [draftAfter, readAfter_cons_of_ne, hkind]
    · obtain rfl : value = .string diagnostic.message := by simpa [members] using hvalue
      exact (Reader.reads_string diagnostic.message).change <| by
        simp [draftAfter, readAfter_cons_of_ne]
    · obtain ⟨-, rfl⟩ : diagnostic.notes ≠ [] ∧ value = .array (diagnostic.notes.map .string) := by
        simpa [members] using hvalue
      exact (Reader.reads_strings diagnostic.notes).change <| by
        simp [draftAfter, readAfter_cons_of_ne]
  skip key hkey keys := by
    simp only [recordFields, List.forall_mem_cons] at hkey
    simp only [draftAfter, readAfter_cons_of_ne hkey.1, readAfter_cons_of_ne hkey.2.1,
      readAfter_cons_of_ne hkey.2.2.1, readAfter_cons_of_ne hkey.2.2.2.1]

/-- The keys of a diagnostic are different from each other. -/
theorem givenOnce_members (diagnostic : Diagnostic) (known : List String) :
    Json.GivenOnce known diagnostic.members := by
  have hnodup : (diagnostic.members.map Prod.fst).Nodup := by
    obtain ⟨severity, kind?, message, notes⟩ := diagnostic
    cases kind? <;> cases notes <;> simp [members]
  exact fun key _ => List.nodup_iff_count_le_one.mp hnodup key

/-- A diagnostic is read from what it is written as. -/
theorem reads_toValue (diagnostic : Diagnostic) :
    reader.Reads diagnostic.toValue diagnostic := by
  have hrecord := Field.reads_record diagnostic.followedBy_draftAfter "struct Diagnostic"
    (diagnostic.givenOnce_members _)
  have hfinish : (diagnostic.draftAfter (Json.keysMet diagnostic.members [])).finish =
      .ok diagnostic := by
    obtain ⟨severity, kind?, message, notes⟩ := diagnostic
    cases kind? <;> cases notes <;>
      simp [draftAfter, members, Json.keysMet, readAfter, Draft.finish, requiredField, ok_bind]
  intro depth node htake
  have hread : Field.readRecord "struct Diagnostic" recordFields {} depth node =
      .ok (diagnostic.draftAfter (Json.keysMet diagnostic.members [])) :=
    hrecord depth node htake
  rw [reader, hread, ok_bind, hfinish]

/-- A diagnostic is written without numbers, and with no more than two brackets open at once. -/
theorem toValue_plain (diagnostic : Diagnostic) :
    diagnostic.toValue.numberFree = true ∧ diagnostic.toValue.nesting ≤ 2 := by
  obtain ⟨severity, kind?, message, notes⟩ := diagnostic
  have hnotes := Json.Value.strings_plain notes
  rw [toValue_eq, Json.Value.numberFree, Json.Value.nesting]
  cases kind? <;> cases notes <;>
    simp_all [members, Json.Value.membersNumberFree, Json.Value.memberNesting,
      Json.Value.numberFree, Json.Value.nesting]

end Diagnostic

namespace Report

/-- A report is written without numbers, and with no more than four brackets open at once. -/
theorem toValue_plain (report : Report) (input : String) :
    (report.toValue input).numberFree = true ∧ (report.toValue input).nesting ≤ 4 := by
  have hdiagnostics :
      Json.Value.elementsNumberFree (report.diagnostics.map Diagnostic.toValue) = true ∧
        Json.Value.elementNesting (report.diagnostics.map Diagnostic.toValue) ≤ 2 := by
    rw [Json.Value.elementsNumberFree_iff, Json.Value.elementNesting_le_iff]
    simp only [List.forall_mem_map]
    exact ⟨fun diagnostic _ => diagnostic.toValue_plain.1,
      fun diagnostic _ => diagnostic.toValue_plain.2⟩
  obtain ⟨hfree, hnesting⟩ := hdiagnostics
  constructor
  · simp [toValue, Json.Value.numberFree, Json.Value.membersNumberFree, hfree]
  · simp only [toValue, Json.Value.nesting, Json.Value.memberNesting]
    omega

/-- The report that a check prints holds the input and the summary as they are, and its diagnostics
are read, one by one and in order, as those that were reported. This is so for every report, however
its diagnostics came about and whatever characters their texts consist of. -/
theorem printed_report_readBack (report : Report) (input : String) :
    ∃ text members elements,
      (Cli.Response.ofReport input true report).output = [text] ∧
      Json.Value.ofText text = .ok (.object members) ∧
      (members.map Prod.fst).Nodup ∧
      members.lookup "input" = some (.string input) ∧
      members.lookup "summary" = some (.string report.summary) ∧
      members.lookup "diagnostics" = some (.array elements) ∧
      List.Forall₂ Diagnostic.reader.Reads elements report.diagnostics ∧
      elements.mapM Diagnostic.reader.ofValue = .ok report.diagnostics := by
  obtain ⟨hfree, hnesting⟩ := report.toValue_plain input
  have hreads : List.Forall₂ Diagnostic.reader.Reads
      (report.diagnostics.map Diagnostic.toValue) report.diagnostics := by
    rw [List.forall₂_map_left_iff, List.forall₂_same]
    exact fun diagnostic _ => diagnostic.reads_toValue
  refine ⟨(report.toValue input).text, _, _, rfl,
    (Json.Value.writtenBy_text hfree).ofText_eq (Nat.le_trans hnesting (by decide)), by simp,
    rfl, rfl, rfl, hreads, ?_⟩
  rw [mapM_eq_ok_iff, List.forall₂_map_left_iff, List.forall₂_same]
  exact fun diagnostic _ => Reader.ofValue_of_reads diagnostic.reads_toValue
    diagnostic.toValue_plain.1 (Nat.le_trans diagnostic.toValue_plain.2 (by decide))

end Report

end Narrowing
