import Dialogue.Text.GlyphTable
import Dialogue.Text.Lowercase

/-!
# Quoted texts

Texts between double quotes, as they appear in error messages: every character that would not show
as a glyph of its own is written as an escape.
-/

namespace Dialogue.Text

/-- A number in hexadecimal with small letters and no leading zeros. -/
def hex (n : Nat) : String := String.ofList (Nat.toDigits 16 n)

/-- One character of a quoted text. -/
def quotedChar (c : Char) : String :=
  match c with
  | '\x00' => "\\0"
  | '\t' => "\\t"
  | '\n' => "\\n"
  | '\x0d' => "\\r"
  | '"' => "\\\""
  | '\\' => "\\\\"
  | _ =>
    if inRanges extendingRanges c || inRanges unprintableRanges c then
      "\\u\x7b" ++ hex c.toNat ++ "\x7d"
    else c.toString

/-- The text between double quotes. -/
def quoted (s : String) : String :=
  "\"" ++ String.join (s.toList.map quotedChar) ++ "\""

end Dialogue.Text
