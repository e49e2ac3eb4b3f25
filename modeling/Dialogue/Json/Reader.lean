import Dialogue.Json.Fault
import Dialogue.Json.Scan
import Dialogue.Ranged
import Dialogue.Sorted

/-!
# Readers of JSON

Readers of plain values, of sequences and maps, and of names with a meaning.
-/

namespace Dialogue.Json

/-- What reading gives, unless there is a fault. -/
abbrev Reading (α : Type) := Except Fault α

/-- A flaw, if there is one, ends the reading. -/
def Flaw.check : Option Flaw → Reading Unit
  | none => .ok ()
  | some f => .error (.flaw f)

/-- The fault of a document that is not of the shape expected. -/
def Doc.reject (d : Doc) (expected : String) : Fault :=
  match d.shape with
  | .ok shape => .mismatch (.invalidType shape expected)
  | .error f => .flaw f

def Key.read (k : Key) : Reading String := k.name.mapError .flaw

def readBool : Doc → Reading Bool
  | .bool b => .ok b
  | d => .error (d.reject "a boolean")

def readText : Doc → Reading String
  | .text s => .ok s
  | d => .error (d.reject "a string")

/-- Reads an integer in range, which is known by a name. -/
def readRanged (lo hi : Int) (name : String) : Doc → Reading (Ranged lo hi)
  | .number (.int n) =>
    match Ranged.ofInt? n with
    | some a => .ok a
    | none => .error (.mismatch (.invalidValue n name))
  | d => .error (d.reject name)

def readAmount : Doc → Reading Amount := readRanged _ _ "i64"
def readCount : Doc → Reading Count := readRanged _ _ "u32"
def readSize : Doc → Reading Size := readRanged _ _ "usize"

/-- Reads a value that may be null. -/
def readOption {α : Type} (read : Doc → Reading α) : Doc → Reading (Option α)
  | .null => .ok none
  | .broken b => if b.start = .null then .error (.flaw b.reading) else some <$> read (.broken b)
  | d => some <$> read d

/-- Reads a sequence, item by item. -/
def readList {α : Type} (read : Doc → Reading α) : Doc → Reading (List α)
  | .seq items close => do
    let l ← items.mapM read
    Flaw.check close
    return l
  | .deep false _ => .error (.flaw .malformed)
  | d => .error (d.reject "a sequence")

def readNameSet (d : Doc) : Reading NameSet := Sorted.ofList <$> readList readText d

/-- Reads a member of a map. -/
def readMember {α : Type} (read : Doc → Reading α) (m : Key × Doc) : Reading (String × α) := do
  let name ← m.1.read
  return (name, ← read m.2)

/-- Reads a map; of members with one name, the last counts. -/
def readTable {α : Type} (read : Doc → Reading α) : Doc → Reading (Table α)
  | .map members close => do
    let l ← members.mapM (readMember read)
    Flaw.check close
    return Sorted.ofList l
  | .deep true _ => .error (.flaw .malformed)
  | d => .error (d.reject "a map")

/-- The names of a vocabulary and what they mean. A vocabulary may have a meaning for all other
names. -/
structure Vocabulary (α : Type) where
  names : List (String × α)
  other : Option α := none

namespace Vocabulary
variable {α : Type}

def meaning (v : Vocabulary α) (name : String) : Reading α :=
  match v.names.lookup name, v.other with
  | some a, _ => .ok a
  | none, some a => .ok a
  | none, none => .error (.mismatch (.unknownVariant name (v.names.map Prod.fst)))

/-- Reads a name: a text, or the only member of a map, which holds null. -/
def read (v : Vocabulary α) : Doc → Reading α
  | .text s => v.meaning s
  | .map ((key, value) :: members) close => do
    let a ← v.meaning (← key.read)
    match value with
    | .null => pure ()
    | d => throw (d.reject "unit")
    if !members.isEmpty then throw (.flaw .malformed)
    Flaw.check close
    return a
  | .map [] (some f) => .error (.flaw f)
  | .broken b => .error (.flaw b.naming)
  | _ => .error (.flaw .malformed)

/-- The name with a given meaning. -/
def nameOf [DecidableEq α] (v : Vocabulary α) (a : α) : String :=
  ((v.names.find? (·.2 = a)).map Prod.fst).getD ""

end Vocabulary

/-- Reads a whole text: nothing but white space may follow the document. -/
def readAll {α : Type} (read : Doc → Reading α) (s : String) : Reading α := do
  let (d, rest) := scan s
  let a ← read d
  match rest with
  | some rest => if (skipSpaces rest).isEmpty then return a else throw (.flaw .malformed)
  | none => throw (.flaw .malformed)

end Dialogue.Json
