import Mathlib.Data.List.Basic
import Narrowing.Report

/-!
# Collecting diagnostics

A report takes up one entry after the other. An entry is a failure or a remark, and its diagnostic
may be changed until the next entry comes: it gets notes, and another kind or none. Taking up an
entry adds one diagnostic at the end, as it is after all changes to it, and touches nothing that is
there already. So the count that a report keeps beside its diagnostics stays the number of errors
among them, whatever is changed in between.
-/

namespace Narrowing

namespace Report

/-! ### Adding and editing -/

/-- A diagnostic that is edited after it was added may as well be added as edited, if it is an error
before and after or neither. -/
theorem editLast_add (report : Report) {diagnostic : Diagnostic} {edit : Diagnostic → Diagnostic}
    (h : (edit diagnostic).severity = diagnostic.severity) :
    (report.add diagnostic).editLast edit = report.add (edit diagnostic) := by
  simp [editLast, add, h]

/-- A note on a failure just reported is as good as a failure reported with the note. -/
theorem fail_addNote (report : Report) (failure : Failure) (note : String) :
    (report.fail failure).addNote note =
      report.add ((Diagnostic.ofFailure failure).addNote note) :=
  report.editLast_add rfl

/-- The diagnostics that a report takes up stand at its end, and the errors among them are
counted. -/
theorem foldl_add (report : Report) (diagnostics : List Diagnostic) :
    diagnostics.foldl Report.add report =
      { diagnostics := report.diagnostics ++ diagnostics
        errorCount := report.errorCount + diagnostics.countP (·.severity = .error) } := by
  induction diagnostics generalizing report with
  | nil => simp
  | cons diagnostic rest ih =>
    rw [List.foldl_cons, ih, List.countP_cons]
    simp [Report.add, Nat.add_assoc, Nat.add_comm]

/-! ### Entries -/

/-- A change to the diagnostic that a report has just taken up. -/
inductive Edit where
  /-- It gets a note. -/
  | addNote (note : String)
  /-- It gets another kind. -/
  | setKind (kind : String)
  /-- It loses its kind. -/
  | dropKind
  deriving Repr, DecidableEq

namespace Edit

/-- The diagnostic after the change. -/
def apply : Edit → Diagnostic → Diagnostic
  | addNote note, diagnostic => diagnostic.addNote note
  | setKind kind, diagnostic => diagnostic.withKind kind
  | dropKind, diagnostic => { diagnostic with kind? := none }

/-- The report after the change. -/
def perform (report : Report) : Edit → Report
  | addNote note => report.addNote note
  | setKind kind => report.setKind kind
  | dropKind => report.editLast fun diagnostic => { diagnostic with kind? := none }

/-- The note that the change adds, if it adds one. -/
def note? : Edit → Option String
  | addNote note => some note
  | setKind _ | dropKind => none

/-- What the change makes of the kind, if it changes the kind. -/
def kind? : Edit → Option (Option String)
  | addNote _ => none
  | setKind kind => some (some kind)
  | dropKind => some none

end Edit

/-- What a report can be told. -/
inductive Event where
  /-- Something failed. -/
  | failed (failure : Failure)
  /-- There is something to remark. -/
  | remarked (message : String)
  deriving Repr, DecidableEq

namespace Event

/-- The diagnostic that the event is reported as. -/
def diagnostic : Event → Diagnostic
  | failed failure => .ofFailure failure
  | remarked message => .remark message

/-- The report that has been told of the event. -/
def perform (report : Report) : Event → Report
  | failed failure => report.fail failure
  | remarked message => report.remark message

end Event

/-- An event with the changes to its diagnostic, in the order in which they are made. -/
structure Entry where
  /-- The event. -/
  event : Event
  /-- The changes. -/
  edits : List Edit := []
  deriving Repr, DecidableEq

namespace Entry

/-- Whether the event is a failure. -/
def isFailure (entry : Entry) : Bool :=
  match entry.event with
  | .failed _ => true
  | .remarked _ => false

/-- The report that has taken up the entry. -/
def perform (report : Report) (entry : Entry) : Report :=
  entry.edits.foldl Edit.perform (entry.event.perform report)

/-- The diagnostic of the entry: that of its event, with all notes that were added to it, and with
the kind that it was given last. -/
def diagnostic (entry : Entry) : Diagnostic where
  severity := entry.event.diagnostic.severity
  kind? := (entry.edits.filterMap Edit.kind?).getLast?.getD entry.event.diagnostic.kind?
  message := entry.event.diagnostic.message
  notes := entry.edits.filterMap Edit.note?

/-- The entry with a further change. -/
def andThen (edit : Edit) (entry : Entry) : Entry := { entry with edits := entry.edits ++ [edit] }

end Entry

/-- The report that has taken up entries, one after the other and beginning with an empty report. -/
def ofEntries (entries : List Entry) : Report := entries.foldl Entry.perform empty

/-- Changing the diagnostic that was just added is adding the changed diagnostic. -/
theorem Edit.perform_add (report : Report) (diagnostic : Diagnostic) (edit : Edit) :
    Edit.perform (report.add diagnostic) edit = report.add (edit.apply diagnostic) := by
  cases edit <;> exact report.editLast_add rfl

/-- Changes to the diagnostic that was just added change nothing else. -/
theorem foldl_perform_add (report : Report) (diagnostic : Diagnostic) (edits : List Edit) :
    edits.foldl Edit.perform (report.add diagnostic) =
      report.add (edits.foldl (fun diagnostic edit => edit.apply diagnostic) diagnostic) := by
  induction edits generalizing diagnostic with
  | nil => rfl
  | cons edit rest ih => rw [List.foldl_cons, Edit.perform_add, ih, List.foldl_cons]

/-- After changes a diagnostic has the notes that they add, and the kind of the last one that
changes the kind. -/
theorem foldl_apply (diagnostic : Diagnostic) (edits : List Edit) :
    edits.foldl (fun diagnostic edit => edit.apply diagnostic) diagnostic =
      { diagnostic with
        kind? := (edits.filterMap Edit.kind?).getLast?.getD diagnostic.kind?
        notes := diagnostic.notes ++ edits.filterMap Edit.note? } := by
  induction edits generalizing diagnostic with
  | nil => simp
  | cons edit rest ih =>
    rw [List.foldl_cons, ih]
    cases edit <;>
      simp [Edit.apply, Edit.kind?, Edit.note?, Diagnostic.addNote, Diagnostic.withKind,
        List.getLast?_cons, List.filterMap_cons]

namespace Entry

/-- Taking up an entry adds its diagnostic. -/
theorem perform_eq_add (report : Report) (entry : Entry) :
    perform report entry = report.add entry.diagnostic := by
  obtain ⟨event, edits⟩ := entry
  have hevent : event.perform report = report.add event.diagnostic := by cases event <;> rfl
  have hnotes : event.diagnostic.notes = [] := by cases event <;> rfl
  rw [perform, hevent, foldl_perform_add, foldl_apply, hnotes, List.nil_append, diagnostic]

/-- The diagnostic of a failure is an error, and no other diagnostic is. -/
theorem severity_diagnostic (entry : Entry) :
    entry.diagnostic.severity = .error ↔ entry.isFailure = true := by
  obtain ⟨event, edits⟩ := entry
  cases event <;> simp [diagnostic, isFailure, Event.diagnostic, Diagnostic.ofFailure,
    Diagnostic.remark]

/-- A further change to an entry is a change to its diagnostic. -/
theorem diagnostic_andThen (edit : Edit) (entry : Entry) :
    (entry.andThen edit).diagnostic = edit.apply entry.diagnostic := by
  cases edit <;>
    simp [andThen, diagnostic, Edit.apply, Edit.kind?, Edit.note?, Diagnostic.addNote,
      Diagnostic.withKind]

end Entry

/-- There are as many errors among the diagnostics of entries as failures among the entries. -/
theorem countP_diagnostics (entries : List Entry) :
    (entries.map Entry.diagnostic).countP (·.severity = .error) =
      entries.countP Entry.isFailure := by
  rw [List.countP_map]
  refine List.countP_congr fun entry _ => ?_
  simpa using entry.severity_diagnostic

/-- Entries add their diagnostics, one each, and the failures among them are counted. -/
theorem ofEntries_eq (entries : List Entry) :
    ofEntries entries =
      { diagnostics := entries.map Entry.diagnostic
        errorCount := entries.countP Entry.isFailure } := by
  have hadd : Entry.perform = fun report entry => report.add entry.diagnostic := by
    funext report entry
    exact entry.perform_eq_add report
  rw [ofEntries, hadd, ← List.foldl_map, foldl_add, countP_diagnostics]
  simp [empty]

/-- A change to the diagnostic that was added last changes this diagnostic and nothing else. -/
theorem perform_ofEntries (entries : List Entry) (entry : Entry) (edit : Edit) :
    Edit.perform (ofEntries (entries ++ [entry])) edit =
      { ofEntries (entries ++ [entry]) with
        diagnostics := (ofEntries entries).diagnostics ++ [edit.apply entry.diagnostic] } := by
  have hlast : Edit.perform (ofEntries (entries ++ [entry])) edit =
      ofEntries (entries ++ [entry.andThen edit]) := by
    simp [ofEntries, Entry.perform, Entry.andThen]
  have hcount : (entries ++ [entry.andThen edit]).countP Entry.isFailure =
      (entries ++ [entry]).countP Entry.isFailure := by
    rw [List.countP_append, List.countP_append]
    rfl
  rw [hlast, ofEntries_eq, ofEntries_eq, ofEntries_eq, hcount, List.map_append, List.map_singleton,
    Entry.diagnostic_andThen]

/-- A list in which one item is changed is mapped to a list in which one result is changed, if the
change to the item shows as that change to the result. -/
theorem map_modify {α β : Type} {f : α → α} {f' : β → β} {g : α → β}
    (h : ∀ item, g (f item) = f' (g item)) (items : List α) (index : Nat) :
    (items.modify index f).map g = (items.map g).modify index f' := by
  induction items generalizing index with
  | nil => simp
  | cons item rest ih =>
    cases index with
    | zero => simp [h]
    | succ index => simp [ih]

/-- A further change to one entry changes the diagnostic of this entry and nothing else. -/
theorem ofEntries_modify (entries : List Entry) (index : Nat) (edit : Edit) :
    ofEntries (entries.modify index (Entry.andThen edit)) =
      { ofEntries entries with
        diagnostics := (ofEntries entries).diagnostics.modify index edit.apply } := by
  have hdiagnostics := map_modify (Entry.diagnostic_andThen edit) entries index
  have hfailures : (entries.modify index (Entry.andThen edit)).map Entry.isFailure =
      entries.map Entry.isFailure := by
    have hsame : ∀ entry, Entry.isFailure (Entry.andThen edit entry) = id entry.isFailure :=
      fun _ => rfl
    rw [map_modify hsame, List.modify_id]
  have hcount : (entries.modify index (Entry.andThen edit)).countP Entry.isFailure =
      entries.countP Entry.isFailure := by
    have hmap (entries : List Entry) :
        entries.countP Entry.isFailure = (entries.map Entry.isFailure).countP id := by
      rw [List.countP_map, Function.id_comp]
    rw [hmap, hfailures, ← hmap]
  simp only [ofEntries_eq, hdiagnostics, hcount]

/-! ### The number of errors in words -/

/-- The number with which a text begins; zero if it begins with none. -/
def numberStated (text : String) : Nat :=
  Nat.ofDigitChars 10 (text.toList.takeWhile Char.isDigit) 0

/-- A text that begins with a numeral and a blank begins with the number of the numeral. -/
theorem numberStated_repr_append (n : Nat) (words : String) :
    numberStated (n.repr ++ (" " ++ words)) = n := by
  have hrepr : n.repr.toList = Nat.toDigits 10 n := by
    rw [Nat.repr_eq_ofList_toDigits, String.toList_ofList]
  have hdigits : ∀ c ∈ Nat.toDigits 10 n, c.isDigit = true := fun c hc =>
    Nat.isDigit_of_mem_toDigits (by decide) (by decide) hc
  have hblank : (" " ++ words).toList.takeWhile Char.isDigit = [] := by
    rw [String.toList_append]
    rfl
  rw [numberStated, String.toList_append, hrepr, List.takeWhile_append_of_pos hdigits, hblank,
    List.append_nil, Nat.ofDigitChars_ten_toDigits]

/-- The summary of a report states how many errors were reported. -/
theorem numberStated_summary (report : Report) :
    numberStated report.summary = report.errorCount := by
  rw [summary]
  split
  · next hnone => rw [hnone]; rfl
  · next hone => rw [hone]; rfl
  · exact numberStated_repr_append _ "errors"

/-- How a number of things is written in front of their name. -/
def numeral (n : Nat) : String := if n = 0 then "No" else n.repr

/-- In the summary the number stands in front of the word for errors. -/
theorem summary_eq (report : Report) :
    report.summary = numeral report.errorCount ++
      if report.errorCount = 1 then " error" else " errors" := by
  rw [summary]
  split
  · next hnone => rw [hnone]; decide
  · next hone => rw [hone]; decide
  · next hnone hone => rw [numeral, if_neg hnone, if_neg hone]; rfl

/-- A report that entries have been put into holds one diagnostic for each of them, in their order
and with all changes that were made to it. When a change is made, it changes the diagnostic of the
last entry and nothing else, and in the end a further change at any entry shows in the diagnostic of
this entry and nowhere else. The count of errors is the number of the entries that are failures and
the number of the diagnostics that are errors, whatever was changed; there are errors exactly if one
of the diagnostics is one; and the summary states the count. -/
theorem entries_collected (entries : List Entry) :
    (ofEntries entries).diagnostics = entries.map Entry.diagnostic ∧
      (∀ entry edit, Edit.perform (ofEntries (entries ++ [entry])) edit =
        { ofEntries (entries ++ [entry]) with
          diagnostics := (ofEntries entries).diagnostics ++ [edit.apply entry.diagnostic] }) ∧
      (∀ index edit, ofEntries (entries.modify index (Entry.andThen edit)) =
        { ofEntries entries with
          diagnostics := (ofEntries entries).diagnostics.modify index edit.apply }) ∧
      (ofEntries entries).errorCount = entries.countP Entry.isFailure ∧
      (ofEntries entries).errorCount =
        (ofEntries entries).diagnostics.countP (·.severity = .error) ∧
      ((ofEntries entries).hasErrors = true ↔
        ∃ diagnostic ∈ (ofEntries entries).diagnostics, diagnostic.severity = .error) ∧
      numberStated (ofEntries entries).summary = (ofEntries entries).errorCount ∧
      (ofEntries entries).summary = numeral (ofEntries entries).errorCount ++
        if (ofEntries entries).errorCount = 1 then " error" else " errors" := by
  have hcounts : (ofEntries entries).errorCount =
      (ofEntries entries).diagnostics.countP (·.severity = .error) := by
    rw [ofEntries_eq]
    exact (countP_diagnostics entries).symm
  refine ⟨?_, perform_ofEntries entries, ofEntries_modify entries, ?_, hcounts, ?_,
    numberStated_summary _, summary_eq _⟩
  · rw [ofEntries_eq]
  · rw [ofEntries_eq]
  · rw [hasErrors, decide_eq_true_iff, hcounts, gt_iff_lt, List.countP_pos_iff]
    simp only [decide_eq_true_iff]

/-- What is done to one diagnostic is seen on no other, and does not count. -/
example :
    let failed := (empty.fail (.redefinition "x")).addNote "first"
    let report := ((failed.setKind "renamed").remark "skipped").setKind "hint"
    report.diagnostics = [
        ⟨.error, some "renamed", "Redefinition of symbol 'x'", ["first"]⟩,
        ⟨.note, some "hint", "skipped", []⟩] ∧
      report.summary = "1 error" := by decide

end Report

end Narrowing
