import Narrowing.Json.Value
import Narrowing.Proofs.Json.Lexeme

/-!
# Texts of values

A text writes a value if it spells out the lexemes of the value: those of its elements or members,
with commas between them and brackets around them. A value can be written by many texts, with other
blanks and other spellings of its strings and numbers. In all of them a number is followed by a
mark, a blank or the end of the text.
-/

namespace Narrowing.Json

/-- Items between a pair of brackets, with commas between them. -/
def Lexeme.block (opening closing : Mark) (items : List (List Lexeme)) : List Lexeme :=
  .mark opening :: ([.mark .comma].intercalate items ++ [.mark closing])

namespace Value

/-- A property holds of all values if it holds of the scalars, of every array whose elements have it
and of every object the values of whose members have it. -/
theorem induction {motive : Value → Prop} (null : motive .null)
    (bool : ∀ value, motive (.bool value)) (number : ∀ value, motive (.number value))
    (string : ∀ value, motive (.string value))
    (array : ∀ elements, (∀ element ∈ elements, motive element) → motive (.array elements))
    (object : ∀ members, (∀ member ∈ members, motive member.2) → motive (.object members)) :
    ∀ value, motive value
  | .null => null
  | .bool value => bool value
  | .number value => number value
  | .string value => string value
  | .array elements =>
    array elements fun element _ => induction null bool number string array object element
  | .object members =>
    object members fun member _ => induction null bool number string array object member.2
termination_by value => value
decreasing_by
  · simp only [Value.array.sizeOf_spec]
    have := List.sizeOf_lt_of_mem ‹element ∈ elements›
    omega
  · simp only [Value.object.sizeOf_spec]
    have := List.sizeOf_lt_of_mem ‹member ∈ members›
    cases member
    simp only [Prod.mk.sizeOf_spec] at this ⊢
    omega

mutual

/-- The lexemes of a value. -/
def lexemes : Value → List Lexeme
  | .null => [.word .null]
  | .bool value => [.word (.bool value)]
  | .number value => [.number value]
  | .string value => [.string value]
  | .array elements => Lexeme.block .openArray .closeArray (elementLexemes elements)
  | .object members => Lexeme.block .openObject .closeObject (memberLexemes members)

/-- The lexemes of each element of an array. -/
def elementLexemes : List Value → List (List Lexeme)
  | [] => []
  | element :: rest => element.lexemes :: elementLexemes rest

/-- The lexemes of each member of an object. -/
def memberLexemes : List (String × Value) → List (List Lexeme)
  | [] => []
  | (key, value) :: rest => (.string key :: .mark .colon :: value.lexemes) :: memberLexemes rest

end

mutual

/-- How many arrays and objects of a value are open at once, at most. -/
def nesting : Value → Nat
  | .null | .bool _ | .number _ | .string _ => 0
  | .array elements => elementNesting elements + 1
  | .object members => memberNesting members + 1

/-- How many arrays and objects of the elements of an array are open at once, at most. -/
def elementNesting : List Value → Nat
  | [] => 0
  | element :: rest => max element.nesting (elementNesting rest)

/-- How many arrays and objects of the members of an object are open at once, at most. -/
def memberNesting : List (String × Value) → Nat
  | [] => 0
  | (_, value) :: rest => max value.nesting (memberNesting rest)

end

/-- A text writes a value. -/
def WrittenBy (value : Value) (text : String) : Prop := SpellsOut value.lexemes text.toList

end Value

/-- Lexemes that may stand before any mark. -/
def Closable (lexemes : List Lexeme) : Prop :=
  ∀ mark rest, Divided rest → Divided (lexemes ++ .mark mark :: rest)

theorem divided_cons_of_not_isNumber {lexeme : Lexeme} {rest : List Lexeme}
    (hlexeme : lexeme.isNumber = false) (h : Divided rest) : Divided (lexeme :: rest) :=
  List.isChain_cons.mpr ⟨fun _ _ hnumber => by simp [hlexeme] at hnumber, h⟩

theorem closable_singleton (lexeme : Lexeme) : Closable [lexeme] := by
  intro mark rest hrest
  refine List.isChain_cons.mpr ⟨fun next hnext _ => ?_, divided_cons_of_not_isNumber rfl hrest⟩
  obtain rfl : Lexeme.mark mark = next := by simpa using hnext
  rfl

/-- A block may stand before any mark if each of its items may. -/
theorem closable_block (opening closing : Mark) {items : List (List Lexeme)}
    (h : ∀ item ∈ items, Closable item) : Closable (Lexeme.block opening closing items) := by
  have hitems : Closable ([.mark .comma].intercalate items) := by
    induction items with
    | nil => exact fun mark rest hrest => divided_cons_of_not_isNumber rfl hrest
    | cons item rest ih =>
      cases rest with
      | nil => simpa using h item List.mem_cons_self
      | cons next rest =>
        have hrest := ih fun other hother => h other (List.mem_cons_of_mem item hother)
        intro mark following hfollowing
        simpa using h item List.mem_cons_self .comma _ (hrest mark following hfollowing)
  intro mark rest hrest
  have hclosing := hitems closing (.mark mark :: rest) (divided_cons_of_not_isNumber rfl hrest)
  simpa [Lexeme.block] using divided_cons_of_not_isNumber rfl hclosing

namespace Value

theorem elementLexemes_eq_map (elements : List Value) :
    elementLexemes elements = elements.map lexemes := by
  induction elements with
  | nil => rfl
  | cons element rest ih => simp [elementLexemes, ih]

theorem memberLexemes_eq_map (members : List (String × Value)) :
    memberLexemes members =
      members.map fun member => .string member.1 :: .mark .colon :: member.2.lexemes := by
  induction members with
  | nil => rfl
  | cons member rest ih => simp [memberLexemes, ih]

theorem elementNesting_le_iff {elements : List Value} {depth : Nat} :
    elementNesting elements ≤ depth ↔ ∀ element ∈ elements, element.nesting ≤ depth := by
  induction elements with
  | nil => simp [elementNesting]
  | cons element rest ih => simp only [elementNesting, Nat.max_le, List.forall_mem_cons, ih]

/-- A value may stand before any mark. -/
theorem closable_lexemes (value : Value) : Closable value.lexemes := by
  induction value using Value.induction with
  | null | bool | number | string => simpa only [lexemes] using closable_singleton _
  | array elements ih =>
    rw [lexemes, elementLexemes_eq_map]
    exact closable_block _ _ (by simpa using ih)
  | object members ih =>
    rw [lexemes, memberLexemes_eq_map]
    refine closable_block _ _ fun item hitem => ?_
    obtain ⟨member, hmember, rfl⟩ := List.mem_map.mp hitem
    exact fun mark rest hrest => divided_cons_of_not_isNumber rfl <|
      divided_cons_of_not_isNumber rfl (ih member hmember mark rest hrest)

/-- In the lexemes of a value every number is followed by a mark, if by anything. -/
theorem divided_lexemes (value : Value) : Divided value.lexemes :=
  (List.isChain_append.mp (value.closable_lexemes .comma [] List.isChain_nil)).1

/-- A value does not begin with a closing bracket. -/
theorem exists_lexemes_cons (value : Value) :
    ∃ lexeme rest, value.lexemes = lexeme :: rest ∧ lexeme ≠ .mark .closeArray := by
  cases value <;> exact ⟨_, _, by simp only [lexemes, Lexeme.block]; rfl, by simp⟩

end Value

end Narrowing.Json
