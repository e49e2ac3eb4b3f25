import Dialogue.Json.Reader
import Dialogue.Json.Value

/-!
# Records in JSON

Records with named fields. One description of a record serves for reading and for writing: it lists
the fields in order, and each says how it is read into a record and written from it. A record may
be written as a map of its fields, in any order and with unknown members between them, or as a
sequence of its fields in order.
-/

namespace Dialogue.Json

/-- A field of the records `σ`. -/
structure Field (σ : Type) where
  name : String
  /-- A record cannot do without the field. -/
  required : Bool := false
  /-- The change that a document makes to the record. -/
  read : Doc → Reading (σ → σ)
  /-- What is written of the record, if anything. -/
  write : σ → Option Json

/-- The format of the records `σ`. -/
structure Format (σ : Type) where
  /-- What the record is called in messages. -/
  label : String
  /-- The record of which no field has been read. -/
  start : σ
  fields : List (Field σ)

/-- A number of things, in words. -/
def elements (n : Nat) : String := toString n ++ (if n = 1 then " element" else " elements")

namespace Format
variable {σ : Type}

/-- Reads members into a record, where `seen` lists the fields that have been read. -/
def readMembers (fields : List (Field σ)) (close : Option Flaw) :
    (seen : List String) → σ → List (Key × Doc) → Reading σ
  | seen, s, [] => do
    Flaw.check close
    match fields.find? fun f => f.required && !seen.contains f.name with
    | some f => throw (.mismatch (.missingField f.name))
    | none => return s
  | seen, s, (key, value) :: members => do
    let name ← key.read
    match fields.find? (·.name == name) with
    | none =>
      Flaw.check value.skippingFlaw
      readMembers fields close seen s members
    | some f =>
      if seen.contains name then throw (.mismatch (.duplicateField name))
      let change ← f.read value
      readMembers fields close (name :: seen) (change s) members

/-- Reads items into the fields that are left, and gives the record and the items left over. -/
def readItems (label : String) (close : Option Flaw) :
    (position : Nat) → List (Field σ) → σ → List Doc → Reading (σ × List Doc)
  | _, [], s, items => return (s, items)
  | position, f :: fields, s, [] => do
    Flaw.check close
    if f.required then throw (.mismatch (.invalidLength position label))
    readItems label close (position + 1) fields s []
  | position, f :: fields, s, item :: items => do
    let change ← f.read item
    readItems label close (position + 1) fields (change s) items

/-- What was expected of a sequence that ends too early. -/
def lengthLabel (format : Format σ) : String :=
  format.label ++ " with " ++ elements format.fields.length

def read (format : Format σ) : Doc → Reading σ
  | .map members close => readMembers format.fields close [] format.start members
  | .seq items close => do
    let (s, left) ← readItems format.lengthLabel close 0 format.fields format.start items
    if !left.isEmpty then throw (.flaw .malformed)
    Flaw.check close
    return s
  | .deep .. => .error (.flaw .malformed)
  | d => .error (d.reject format.label)

/-- Reads the record from members or items that have been taken apart before. -/
def readOperands (format : Format σ) : List (Key × Doc) ⊕ List Doc → Reading σ
  | .inl members => readMembers format.fields none [] format.start members
  | .inr items => do
    let (s, left) ← readItems format.lengthLabel none 0 format.fields format.start items
    if !left.isEmpty then
      throw (.mismatch (.invalidLength items.length
        (elements format.fields.length ++ " in sequence")))
    return s

/-- The members written for a record. -/
def members (format : Format σ) (s : σ) : List (String × Json) :=
  format.fields.filterMap fun f => (f.write s).map (f.name, ·)

def write (format : Format σ) (s : σ) : Json := .map (format.members s)

end Format

/-- A field with a view and an update of the record. -/
def Field.of {σ α : Type} (name : String) (read : Doc → Reading α) (write : α → Json)
    (get : σ → α) (set : α → σ → σ) : Field σ where
  name
  read d := set <$> read d
  write s := some (write (get s))

/-- The same field for records that cannot do without it. -/
def Field.needed {σ : Type} (f : Field σ) : Field σ := { f with required := true }

/-- The same field, left out by records of which `absent` holds. -/
def Field.unless {σ : Type} (f : Field σ) (absent : σ → Bool) : Field σ :=
  { f with write := fun s => if absent s then none else f.write s }

end Dialogue.Json
