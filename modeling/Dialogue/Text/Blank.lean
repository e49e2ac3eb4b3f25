/-!
# White space

White space, in the sense of Unicode, and texts freed of it at both ends.
-/

namespace Dialogue.Text

/-- Unicode's white space: the blanks of ASCII, the no-break and typographic spaces, and the line
and paragraph separators. The byte order mark is not among them. -/
def isBlank (c : Char) : Bool :=
  let n := c.toNat
  (9 ≤ n && n ≤ 13) || n == 0x20 || n == 0x85 || n == 0xa0 || n == 0x1680 ||
    (0x2000 ≤ n && n ≤ 0x200a) || n == 0x2028 || n == 0x2029 || n == 0x202f || n == 0x205f ||
    n == 0x3000

/-- The text without the white space around it, as characters. -/
def trimChars (cs : List Char) : List Char :=
  ((cs.dropWhile isBlank).reverse.dropWhile isBlank).reverse

/-- The text without the white space around it. -/
def trim (s : String) : String := String.ofList (trimChars s.toList)

end Dialogue.Text
