import Dialogue.Decimal.Shortest
import Dialogue.Text.Quoted

/-!
# JSON documents

JSON documents as they are found in a text. A document may be flawed: the tree then reaches up to
the place where the text stops being JSON, and says there what is wrong. Readers walk the tree from
left to right, so that the first fault in the text is the one reported, be it in the text itself
or in the shape of what it says.
-/

namespace Dialogue.Json

/-- Why a text is not JSON: something stands where it must not, or the text ends too early. -/
inductive Flaw where
  | malformed
  | truncated
  deriving DecidableEq

/-- A number: an integer that fits a signed or unsigned word of 64 bits, or else a double. -/
inductive Number where
  | int (n : Int)
  | real (negative : Bool) (size : Decimal.Binary64)
  deriving DecidableEq

/-- What a value is, as far as can be told before going inside. -/
inductive Shape where
  | null
  | bool (b : Bool)
  | number (n : Number)
  | text (s : String)
  | sequence
  | map
  deriving DecidableEq

/-- What a broken value looked like at its first character. -/
inductive Start where
  | nothing
  | null
  | quote
  | other
  deriving DecidableEq

/-- A value that the text breaks off in. Reading goes more slowly than skipping and can meet
another flaw first. -/
structure Broken where
  start : Start
  reading : Flaw
  skipping : Flaw
  deriving DecidableEq

namespace Broken

/-- No value begins here. -/
def nothing (flaw : Flaw) : Broken := ⟨.nothing, flaw, flaw⟩

/-- The flaw met by a reader that only goes on where a text begins. -/
def naming (b : Broken) : Flaw :=
  match b.start with
  | .nothing | .quote => b.reading
  | .null | .other => .malformed

end Broken

/-- The name of a member. Nothing but a text can be one. -/
inductive Key where
  | text (s : String)
  /-- A text that can be skipped but not read, as it holds half a surrogate pair. -/
  | unreadable
  | broken (b : Broken)
  deriving DecidableEq

/-- A document in a text. Containers list what was found in them and the flaw, if any, that stands
in the place of a comma or of the closing bracket. -/
inductive Doc where
  | null
  | bool (b : Bool)
  | number (n : Number)
  | text (s : String)
  /-- A number or text that can be skipped but has no value. -/
  | unreadable
  | broken (b : Broken)
  | seq (items : List Doc) (close : Option Flaw)
  | map (members : List (Key × Doc)) (close : Option Flaw)
  /-- A container inside too many others to be read, and the flaw met by skipping it. -/
  | deep (isMap : Bool) (inside : Option Flaw)

/-- How many containers may stand inside one another. -/
def maxDepth : Nat := 127

/-- The flaw met by skipping the name of a member. -/
def Key.skippingFlaw : Key → Option Flaw
  | .text _ | .unreadable => none
  | .broken b => some b.skipping

/-- The name of a member. -/
def Key.name : Key → Except Flaw String
  | .text s => .ok s
  | .unreadable => .error .malformed
  | .broken b => .error b.reading

/-- The flaw met by reading the name of a member. -/
def Key.readingFlaw (k : Key) : Option Flaw :=
  match k.name with
  | .ok _ => none
  | .error f => some f

namespace Doc

mutual

/-- The first flaw met by skipping a document, whatever its shape. -/
def skippingFlaw : Doc → Option Flaw
  | .null | .bool _ | .number _ | .text _ | .unreadable => none
  | .broken b => some b.skipping
  | .seq items close => (itemsSkippingFlaw items).or close
  | .map members close => (membersSkippingFlaw members).or close
  | .deep _ inside => inside

def itemsSkippingFlaw : List Doc → Option Flaw
  | [] => none
  | d :: ds => d.skippingFlaw.or (itemsSkippingFlaw ds)

def membersSkippingFlaw : List (Key × Doc) → Option Flaw
  | [] => none
  | (k, d) :: ms => k.skippingFlaw.or (d.skippingFlaw.or (membersSkippingFlaw ms))

end

mutual

/-- The first flaw met by reading a whole document, whatever its shape. -/
def readingFlaw : Doc → Option Flaw
  | .null | .bool _ | .number _ | .text _ => none
  | .unreadable | .deep .. => some .malformed
  | .broken b => some b.reading
  | .seq items close => (itemsReadingFlaw items).or close
  | .map members close => (membersReadingFlaw members).or close

def itemsReadingFlaw : List Doc → Option Flaw
  | [] => none
  | d :: ds => d.readingFlaw.or (itemsReadingFlaw ds)

def membersReadingFlaw : List (Key × Doc) → Option Flaw
  | [] => none
  | (k, d) :: ms => k.readingFlaw.or (d.readingFlaw.or (membersReadingFlaw ms))

end

/-- What the document is, unless a flaw keeps it from being seen. -/
def shape : Doc → Except Flaw Shape
  | .null => .ok .null
  | .bool b => .ok (.bool b)
  | .number n => .ok (.number n)
  | .text s => .ok (.text s)
  | .unreadable => .error .malformed
  | .broken b => .error b.reading
  | .seq .. => .ok .sequence
  | .map .. => .ok .map
  | .deep isMap _ => .ok (if isMap then .map else .sequence)

end Doc

end Dialogue.Json
