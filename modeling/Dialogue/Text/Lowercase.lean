import Dialogue.Text.CaseTable

/-!
# Small letters

Small letters for whole texts, by Unicode's full case mapping. All but two capitals map one to one
and by themselves: the dotted capital I becomes two characters, and capital sigma has a form of
its own at the end of a word.
-/

namespace Dialogue.Text

/-- Whether a table of ranges holds the character. -/
def inRanges (ranges : List (Nat × Nat)) (c : Char) : Bool :=
  ranges.any fun r => r.1 ≤ c.toNat && c.toNat ≤ r.2

/-- The small letters for a character that stands alone; a character without any is its own. -/
def smallLetters (c : Char) : List Char :=
  let n := c.toNat
  if n < 0x80 then [c.toLower]
  else if n == 0x130 then ['i', Char.ofNat 0x307]
  else
    match capitalRuns.find? fun (first, last, step, _) =>
        first ≤ n && n ≤ last && (n - first) % step == 0 with
    | some (first, _, _, low) => [Char.ofNat (low + (n - first))]
    | none => [c]

/-- Whether a letter with case comes next, accents and the like aside. -/
def startsCased (cs : List Char) : Bool :=
  match cs.dropWhile (inRanges caseIgnorableRanges) with
  | c :: _ => inRanges casedRanges c
  | [] => false

/-- The small letters of a text whose part before it, read backwards, is `before`. A capital sigma
that ends a word becomes the final form. -/
def lowercaseAfter (before : List Char) : List Char → List Char
  | [] => []
  | c :: cs =>
    (if c == 'Σ' then
      [if startsCased before && !startsCased cs then 'ς' else 'σ']
    else smallLetters c) ++ lowercaseAfter (c :: before) cs

/-- The text in small letters. -/
def lowercase (s : String) : String := String.ofList (lowercaseAfter [] s.toList)

/-- Whether two texts agree when the letters of ASCII, and no others, lose their case. -/
def sameLetters (s t : String) : Bool :=
  s.toList.map Char.toLower == t.toList.map Char.toLower

end Dialogue.Text
