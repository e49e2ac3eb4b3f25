import Dialogue.Json.Doc

/-!
# JSON values

JSON values as this library writes them, and their text: two blanks to a level, one member or item
to a line, and everything but quotes, backslashes and control characters as it is.
-/

namespace Dialogue

/-- A JSON value. Only integers are ever written. -/
inductive Json where
  | null
  | bool (b : Bool)
  | int (n : Int)
  | text (s : String)
  | seq (items : List Json)
  | map (members : List (String × Json))
  deriving Inhabited

namespace Json

/-- An optional value, absent as null. -/
def ofOption {α : Type} (f : α → Json) : Option α → Json
  | none => .null
  | some a => f a

/-- Texts in order. -/
def ofTexts (l : List String) : Json := .seq (l.map .text)

mutual

/-- The document that says the value, inside `level` containers. -/
def docAt (level : Nat) : Json → Doc
  | .null => .null
  | .bool b => .bool b
  | .int n => .number (.int n)
  | .text s => .text s
  | .seq items =>
    if level < maxDepth then .seq (itemDocs (level + 1) items) none else .deep false none
  | .map members =>
    if level < maxDepth then .map (memberDocs (level + 1) members) none else .deep true none

def itemDocs (level : Nat) : List Json → List Doc
  | [] => []
  | v :: vs => v.docAt level :: itemDocs level vs

def memberDocs (level : Nat) : List (String × Json) → List (Key × Doc)
  | [] => []
  | (k, v) :: ms => (.text k, v.docAt level) :: memberDocs level ms

end

/-- The document that says the value. -/
def doc (v : Json) : Doc := v.docAt 0

/-- One character of a text between quotes. -/
def printChar (c : Char) : List Char :=
  match c with
  | '"' => ['\\', '"']
  | '\\' => ['\\', '\\']
  | '\x08' => ['\\', 'b']
  | '\x0c' => ['\\', 'f']
  | '\n' => ['\\', 'n']
  | '\x0d' => ['\\', 'r']
  | '\t' => ['\\', 't']
  | c =>
    if c < ' ' then
      ['\\', 'u', '0', '0', Nat.digitChar (c.toNat / 16), Nat.digitChar (c.toNat % 16)]
    else [c]

/-- A text between quotes. -/
def printText (s : String) : List Char := '"' :: s.toList.flatMap printChar ++ ['"']

/-- A new line at a level. -/
def newline (level : Nat) : List Char := '\n' :: List.replicate (2 * level) ' '

mutual

/-- The text of a value that stands at a level. -/
def print (level : Nat) : Json → List Char
  | .null => "null".toList
  | .bool true => "true".toList
  | .bool false => "false".toList
  | .int n => (toString n).toList
  | .text s => printText s
  | .seq [] => "[]".toList
  | .seq (v :: vs) =>
    '[' :: newline (level + 1) ++ v.print (level + 1) ++ printItems (level + 1) vs
      ++ newline level ++ [']']
  | .map [] => ['{', '}']
  | .map ((k, v) :: ms) =>
    '{' :: newline (level + 1) ++ printText k ++ [':', ' '] ++ v.print (level + 1)
      ++ printMembers (level + 1) ms ++ newline level ++ ['}']

def printItems (level : Nat) : List Json → List Char
  | [] => []
  | v :: vs => ',' :: newline level ++ v.print level ++ printItems level vs

def printMembers (level : Nat) : List (String × Json) → List Char
  | [] => []
  | (k, v) :: ms =>
    ',' :: newline level ++ printText k ++ [':', ' '] ++ v.print level ++ printMembers level ms

end

/-- The text of a value. -/
def toText (v : Json) : String := String.ofList (v.print 0)

end Json

end Dialogue
