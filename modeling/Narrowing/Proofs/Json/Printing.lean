import Mathlib.Data.List.Flatten
import Narrowing.Json.Printer
import Narrowing.Proofs.Json.Grammar

/-!
# Printed texts

The text that is printed for a value writes the value, at any level of nesting and for any strings,
as long as there are no numbers in it: the escapes spell the characters that they stand for, and the
lines are broken and indented at places where blanks may stand.
-/

namespace Narrowing.Json

/-- A character is printed as a text that spells it. -/
theorem spellsString_escapedChar (c : Char) : SpellsString [c] (escapedChar c) := by
  unfold escapedChar
  split
  case h_8 _ h₁ h₂ h₃ h₄ h₅ h₆ h₇ =>
    split
    · next hcontrol =>
      have hunit : ∀ n < 0x20, unitValue? '0' '0' (Nat.digitChar (n / 16))
          (Nat.digitChar (n % 16)) = some n := by decide
      exact .unit (hunit c.toNat hcontrol) .nil
    · next hcontrol => exact .plain h₁ h₂ (Nat.not_lt.mp hcontrol) .nil
  all_goals exact .escape rfl .nil

/-- A string is printed as a text that spells it, between quotation marks. -/
theorem spelledBy_printString (s : String) :
    (Lexeme.string s).SpelledBy (printString s).toList := by
  refine ⟨s.toList.flatMap escapedChar, ?_, ?_⟩
  · induction s.toList with
    | nil => exact .nil
    | cons c chars ih => exact (spellsString_escapedChar c).append ih
  · simp [printString]

theorem blank_newLine (level : Nat) : Blank (newLine level).toList := by
  have htext : (newLine level).toList = '\n' :: List.replicate (2 * level) ' ' := by
    simp [newLine]
  intro c hc
  rw [htext, List.mem_cons, List.mem_replicate] at hc
  rcases hc with rfl | ⟨-, rfl⟩ <;> decide

/-- Texts with commas between them spell out what they spell out each, with commas between. -/
theorem spellsOut_intercalate {items : List (List Lexeme)} {texts : List String}
    (h : List.Forall₂ (fun item text => SpellsOut item text.toList) items texts) :
    SpellsOut ([.mark .comma].intercalate items) (",".intercalate texts).toList := by
  have hcomma : ",".toList = [','] := rfl
  rw [String.toList_intercalate, hcomma]
  induction h with
  | nil => exact .nil fun c hc => by simp at hc
  | @cons item text items texts hitem hrest ih =>
    cases hrest with
    | nil => simpa using hitem
    | cons hnext hrest =>
      rw [List.map_cons, List.map_cons, List.intercalate_cons_cons, List.intercalate_cons_cons]
      exact (hitem.append (.of_mark .comma)).append ih

/-- Items that are printed between brackets spell out a block. -/
theorem spellsOut_printBlock {opening closing : Mark} {openingText closingText : String}
    (hopening : openingText.toList = [opening.character])
    (hclosing : closingText.toList = [closing.character]) (level : Nat)
    {items : List (List Lexeme)} {texts : List String}
    (h : List.Forall₂ (fun item text => SpellsOut item text.toList) items texts) :
    SpellsOut (Lexeme.block opening closing items)
      (printBlock openingText closingText level texts).toList := by
  have hopens : SpellsOut [.mark opening] openingText.toList := hopening ▸ .of_mark opening
  have hcloses : SpellsOut [.mark closing] closingText.toList := hclosing ▸ .of_mark closing
  unfold printBlock
  split
  · next hempty =>
    obtain rfl : texts = [] := by simpa using hempty
    cases h
    rw [String.toList_append]
    exact hopens.append hcloses
  · have hlines : List.Forall₂ (fun item text => SpellsOut item text.toList) items
        (texts.map fun text => newLine (level + 1) ++ text) := by
      rw [List.forall₂_map_right_iff]
      refine h.imp fun item text hitem => ?_
      rw [String.toList_append]
      exact hitem.blanks_append (blank_newLine (level + 1))
    simp only [String.toList_append, List.append_assoc]
    exact hopens.append <| (spellsOut_intercalate hlines).append <|
      hcloses.blanks_append (blank_newLine level)

namespace Value

mutual

/-- Whether there is no number in a value. -/
def numberFree : Value → Bool
  | .null | .bool _ | .string _ => true
  | .number _ => false
  | .array elements => elementsNumberFree elements
  | .object members => membersNumberFree members

/-- Whether there is no number in any of the elements of an array. -/
def elementsNumberFree : List Value → Bool
  | [] => true
  | element :: rest => element.numberFree && elementsNumberFree rest

/-- Whether there is no number in any of the members of an object. -/
def membersNumberFree : List (String × Value) → Bool
  | [] => true
  | (_, value) :: rest => value.numberFree && membersNumberFree rest

end

/-- The text of a value at any level of nesting spells out the lexemes of the value. -/
theorem spellsOut_print {value : Value} (hfree : value.numberFree = true) (level : Nat) :
    SpellsOut value.lexemes (value.print level).toList := by
  induction value using Value.induction generalizing level with
  | null =>
    rw [lexemes, print]
    exact .of_word .null
  | bool value =>
    rw [lexemes, print]
    cases value <;> exact .of_word (.bool _)
  | number value => simp [numberFree] at hfree
  | string value =>
    rw [lexemes, print]
    exact .of_spelling (spelledBy_printString value)
  | array elements ih =>
    rw [lexemes, print]
    refine spellsOut_printBlock rfl rfl level ?_
    rw [numberFree] at hfree
    induction elements with
    | nil => exact .nil
    | cons element rest ihRest =>
      rw [elementsNumberFree, Bool.and_eq_true] at hfree
      exact .cons (ih element List.mem_cons_self hfree.1 (level + 1))
        (ihRest (fun other hother => ih other (List.mem_cons_of_mem _ hother)) hfree.2)
  | object members ih =>
    rw [lexemes, print]
    refine spellsOut_printBlock rfl rfl level ?_
    rw [numberFree] at hfree
    induction members with
    | nil => exact .nil
    | cons member rest ihRest =>
      obtain ⟨key, value⟩ := member
      rw [membersNumberFree, Bool.and_eq_true] at hfree
      refine .cons ?_
        (ihRest (fun other hother => ih other (List.mem_cons_of_mem _ hother)) hfree.2)
      have hspace : Blank [' '] := by simp [Blank, isBlank]
      have hcolon : SpellsOut [.mark .colon] ": ".toList :=
        (SpellsOut.of_mark .colon).append (.nil hspace)
      rw [String.toList_append, String.toList_append, List.append_assoc]
      exact (SpellsOut.of_spelling (spelledBy_printString key)).append
        (hcolon.append (ih (key, value) List.mem_cons_self hfree.1 (level + 1)))

/-- A value without numbers is written by its text. -/
theorem writtenBy_text {value : Value} (hfree : value.numberFree = true) :
    value.WrittenBy value.text :=
  spellsOut_print hfree 0

end Value

end Narrowing.Json
