import Narrowing.Proofs.Json.Building
import Narrowing.Proofs.Json.Taking
import Narrowing.Reading.Record
import Narrowing.Reading.TypeRef

/-!
# What readers read

A reader reads a value as a result if it makes the result of every tree that is taken in as the
value. What the readers of parts read is put together along the value, and a reader of whole texts
makes the result of every text that writes the value.
-/

namespace Narrowing

namespace Reader

variable {α : Type} {reader : Reader α} {value : Json.Value} {result : α}

/-- A reader makes a result of every tree that is taken in as a value. -/
def Reads (reader : Reader α) (value : Json.Value) (result : α) : Prop :=
  ∀ depth node, node.take depth = .ok value → reader depth node = .ok result

/-- What a reader makes of all trees that are taken in as a value, be it a result or an error, it
makes of a text that writes the value. -/
theorem text_of_outcome {outcome : Except ReadError α}
    (h : ∀ depth node, node.take depth = .ok value → reader depth node = outcome) {source : String}
    (hwritten : value.WrittenBy source) (hnesting : value.nesting ≤ Json.nestingLimit) :
    Reader.text reader source = outcome := by
  obtain ⟨node, hholds, hdocument⟩ := hwritten.document
  have hreader := h Json.nestingLimit node (hholds Json.nestingLimit hnesting)
  simp only [text, hdocument, hreader]
  cases outcome <;> rfl

/-- A reader makes of a text that writes a value what it reads the value as. -/
theorem text_of_reads (h : reader.Reads value result) {source : String}
    (hwritten : value.WrittenBy source) (hnesting : value.nesting ≤ Json.nestingLimit) :
    Reader.text reader source = .ok result :=
  text_of_outcome h hwritten hnesting

/-- What is made of the value itself is read. -/
theorem reads_of_take {make : Json.Value → Except ReadError α} (h : make value = .ok result) :
    Reads (fun depth node => do make (← lift (node.take depth))) value result := by
  intro depth node htake
  simp only [htake, lift, mapError_ok, ok_bind, h]

/-- What is read may be changed afterwards. -/
theorem Reads.change {β : Type} {f : α → β} {changed : β} (h : reader.Reads value result)
    (heq : f result = changed) :
    Reads (fun depth node => do return f (← reader depth node)) value changed := by
  intro depth node htake
  simp only [h depth node htake, ok_bind, heq]
  rfl

theorem reads_string (s : String) : Reads string (.string s) s := by
  intro depth node htake
  obtain ⟨quotation, rfl, hvalue⟩ := Json.Node.take_eq_string_iff.mp htake
  simp only [string, hvalue, lift, mapError_ok]

theorem reads_optional_none (reader : Reader α) : Reads (optional reader) .null none := by
  intro depth node htake
  rw [Json.Node.take_eq_null_iff.mp htake, optional]

/-- What is not `null` is read as something. -/
theorem reads_optional_some (h : reader.Reads value result) (hne : value ≠ .null) :
    Reads (optional reader) value (some result) := by
  intro depth node htake
  have hnode : node ≠ .null := by
    rintro rfl
    simp only [Json.Node.take, Except.ok.injEq] at htake
    exact hne htake.symm
  rw [optional.eq_2 _ _ _ hnode, h depth node htake]
  rfl

/-- Lists that are related to one list item by item are related to each other. -/
theorem forall₂_trans {β γ δ : Type} {R : β → γ → Prop} {S : γ → δ → Prop} {T : β → δ → Prop}
    (hitem : ∀ a b c, R a b → S b c → T a c) {as : List β} {bs : List γ} {cs : List δ}
    (h : List.Forall₂ R as bs) (h' : List.Forall₂ S bs cs) : List.Forall₂ T as cs := by
  induction h generalizing cs with
  | nil => cases h'; exact .nil
  | cons hab _ ih =>
    obtain ⟨c, cs, hbc, hcs, rfl⟩ := List.forall₂_cons_left_iff.mp h'
    exact .cons (hitem _ _ _ hab hbc) (ih hcs)

/-- An array is read element by element. -/
theorem reads_list {values : List Json.Value} {results : List α}
    (h : List.Forall₂ reader.Reads values results) :
    Reads (list reader) (.array values) results := by
  intro depth node htake
  obtain ⟨nodes, inner, rfl, hopen, helements⟩ := Json.Node.take_eq_array_iff.mp htake
  have hmapM : nodes.mapM (reader inner) = .ok results := by
    rw [Json.Node.takeElements_eq_ok_iff] at helements
    exact mapM_eq_ok_iff.mpr <| forall₂_trans
      (fun node _ _ hnode hreads => hreads inner node hnode) helements h
  simp only [list, openNested, hopen, lift, mapError_ok, ok_bind, hmapM]
  rfl

/-- An array of strings is read as these strings. -/
theorem reads_strings (strings : List String) :
    Reads (list string) (.array (strings.map .string)) strings := by
  refine reads_list ?_
  rw [List.forall₂_map_left_iff, List.forall₂_same]
  exact fun s _ => reads_string s

/-- An object whose keys can be any is read member by member. -/
theorem reads_map {members : List (String × Json.Value)} {entries : List (String × α)}
    (h : List.Forall₂ (fun member entry => member.1 = entry.1 ∧ reader.Reads member.2 entry.2)
      members entries) :
    Reads (map reader) (.object members) entries := by
  intro depth node htake
  obtain ⟨nodes, inner, rfl, hopen, hmembers⟩ := Json.Node.take_eq_object_iff.mp htake
  rw [Json.Node.takeMembers_eq_ok_iff] at hmembers
  simp only [map, openNested, hopen, lift, mapError_ok, ok_bind]
  refine bind_eq_ok_iff.mpr ⟨entries, mapM_eq_ok_iff.mpr (forall₂_trans ?_ hmembers h), rfl⟩
  rintro ⟨key, tree⟩ ⟨name, value⟩ ⟨_, result⟩ ⟨hkey, htree⟩ ⟨rfl, hreads⟩
  simp only at hkey htree hreads ⊢
  rw [hkey, hreads inner tree htree]
  rfl

/-- A known word is read as a string. -/
theorem reads_word {ofWord? : String → Option α} {known : List String} {name : String}
    (h : ofWord? name = some result) : Reads (word known ofWord?) (.string name) result := by
  intro depth node htake
  obtain ⟨quotation, rfl, hvalue⟩ := Json.Node.take_eq_string_iff.mp htake
  simp only [word, hvalue, lift, mapError_ok, ok_bind, meaning, h]

/-- A known word is also read as the only key of an object. -/
theorem reads_word_object {ofWord? : String → Option α} {known : List String} {name : String}
    (h : ofWord? name = some result) :
    Reads (word known ofWord?) (.object [(name, .null)]) result := by
  intro depth node htake
  obtain ⟨nodes, inner, rfl, hopen, hmembers⟩ := Json.Node.take_eq_object_iff.mp htake
  rw [Json.Node.takeMembers_eq_ok_iff, List.forall₂_cons_right_iff] at hmembers
  obtain ⟨⟨key, value⟩, rest, ⟨hkey, hnull⟩, hrest, rfl⟩ := hmembers
  cases hrest
  obtain rfl := Json.Node.take_eq_null_iff.mp hnull
  simp only [word, openNested, hopen, lift, mapError_ok, ok_bind, hkey, meaning, h, unit]
  rfl

end Reader

end Narrowing
