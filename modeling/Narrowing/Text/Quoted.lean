import Narrowing.Text.Dependent

/-!
# Quoted text

Text as messages show it: between quotation marks, on one line, with every character either
visible or spelled out.
-/

namespace Narrowing.Text

/-- The hexadecimal digits of a number, in lower case and without leading zeros. -/
def hex (n : Nat) : String := String.ofList (Nat.toDigits 16 n)

/-- A character as it is shown within quotation marks. -/
def quotedChar (c : Char) : String :=
  match c with
  | '\x00' => "\\0"
  | '\t' => "\\t"
  | '\r' => "\\r"
  | '\n' => "\\n"
  | '\\' => "\\\\"
  | '"' => "\\\""
  | _ => if isDependent c then "\\u\x7b" ++ hex c.toNat ++ "\x7d" else String.singleton c

/-- A text within quotation marks. -/
def quoted (text : String) : String :=
  "\"" ++ String.join (text.toList.map quotedChar) ++ "\""

/-- Apostrophes and visible characters of any script are shown as they are. -/
example : quoted "it's é\x08" = "\"it's é\\u\x7b8\x7d\"" := by decide +kernel

end Narrowing.Text
