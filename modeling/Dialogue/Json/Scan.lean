import Dialogue.Json.Numeral
import Dialogue.Json.Quotation

/-!
# Scanning JSON

The document in a JSON text. Each scanner takes the rest of the text and gives what it found there
and the text after that, or no text where it broke off: nothing is looked at beyond a flaw that
neither readers nor skippers could pass.
-/

namespace Dialogue.Json

/-- The white space of JSON. -/
def isSpace (c : Char) : Bool := c == ' ' || c == '\t' || c == '\n' || c == '\x0d'

def skipSpaces (cs : List Char) : List Char := cs.dropWhile isSpace

/-- The rest of a word whose first character has been seen. -/
def scanWord (start : Start) (word : Doc) : List Char → List Char → Found
  | [], cs => (word, some cs)
  | _ :: _, [] => (.broken ⟨start, .truncated, .truncated⟩, none)
  | w :: ws, c :: cs =>
    if w == c then scanWord start word ws cs
    else (.broken ⟨start, .malformed, .malformed⟩, none)

def Quotation.doc : Quotation → Doc
  | .text s => .text s
  | .unreadable => .unreadable
  | .broken reading skipping => .broken ⟨.quote, reading, skipping⟩

def Quotation.key : Quotation → Key
  | .text s => .text s
  | .unreadable => .unreadable
  | .broken reading skipping => .broken ⟨.quote, reading, skipping⟩

/-- The name of a member. -/
def scanKey (cs : List Char) : Key × Option (List Char) :=
  match skipSpaces cs with
  | [] => (.broken (.nothing .truncated), none)
  | '"' :: cs =>
    let (quotation, rest) := scanQuotation {} cs
    (quotation.key, rest)
  | _ => (.broken (.nothing .malformed), none)

mutual

/-- The value that comes next, inside `level` containers. -/
def scanValue : (fuel level : Nat) → List Char → Found
  | 0, _, _ => (.broken (.nothing .truncated), none)
  | fuel + 1, level, cs =>
    match skipSpaces cs with
    | [] => (.broken (.nothing .truncated), none)
    | 'n' :: cs => scanWord .null .null "ull".toList cs
    | 't' :: cs => scanWord .other (.bool true) "rue".toList cs
    | 'f' :: cs => scanWord .other (.bool false) "alse".toList cs
    | '"' :: cs =>
      let (quotation, rest) := scanQuotation {} cs
      (quotation.doc, rest)
    | '[' :: cs =>
      let (items, close, rest) := scanItems fuel (level + 1) true cs
      (if level < maxDepth then .seq items close
        else .deep false ((Doc.itemsSkippingFlaw items).or close), rest)
    | '{' :: cs =>
      let (members, close, rest) := scanMembers fuel (level + 1) true cs
      (if level < maxDepth then .map members close
        else .deep true ((Doc.membersSkippingFlaw members).or close), rest)
    | '-' :: cs => scanNumber true cs
    | c :: cs =>
      if c.isDigit then scanNumber false (c :: cs) else (.broken (.nothing .malformed), none)
termination_by structural fuel => fuel

/-- The items from here to the closing bracket; all but the first come after a comma. -/
def scanItems : (fuel level : Nat) → (first : Bool) → List Char →
    List Doc × Option Flaw × Option (List Char)
  | 0, _, _, _ => ([], some .truncated, none)
  | fuel + 1, level, first, cs =>
    match skipSpaces cs with
    | [] => ([], some .truncated, none)
    | ']' :: cs => ([], none, some cs)
    | c :: cs =>
      if first || c == ',' then
        let (item, rest) := scanValue fuel level (if first then c :: cs else cs)
        match rest with
        | none => ([item], none, none)
        | some rest =>
          let (items, close, rest) := scanItems fuel level false rest
          (item :: items, close, rest)
      else ([], some .malformed, none)
termination_by structural fuel => fuel

/-- The members from here to the closing brace; all but the first come after a comma. -/
def scanMembers : (fuel level : Nat) → (first : Bool) → List Char →
    List (Key × Doc) × Option Flaw × Option (List Char)
  | 0, _, _, _ => ([], some .truncated, none)
  | fuel + 1, level, first, cs =>
    match skipSpaces cs with
    | [] => ([], some .truncated, none)
    | '}' :: cs => ([], none, some cs)
    | c :: cs =>
      if first || c == ',' then
        let (key, rest) := scanKey (if first then c :: cs else cs)
        match rest with
        | none => ([(key, .broken (.nothing .malformed))], none, none)
        | some rest =>
          let (value, rest) := scanColon fuel level rest
          match rest with
          | none => ([(key, value)], none, none)
          | some rest =>
            let (members, close, rest) := scanMembers fuel level false rest
            ((key, value) :: members, close, rest)
      else ([], some .malformed, none)
termination_by structural fuel => fuel

/-- The colon after a name, and the value after it. -/
def scanColon : (fuel level : Nat) → List Char → Found
  | 0, _, _ => (.broken (.nothing .truncated), none)
  | fuel + 1, level, cs =>
    match skipSpaces cs with
    | [] => (.broken (.nothing .truncated), none)
    | ':' :: cs => scanValue fuel level cs
    | _ => (.broken (.nothing .malformed), none)
termination_by structural fuel => fuel

end

/-- The document that a text begins with. The fuel lasts: no character is looked at by more than
four scanners in turn. -/
def scan (s : String) : Found :=
  let cs := s.toList
  scanValue (4 * cs.length + 4) 0 cs

end Dialogue.Json
