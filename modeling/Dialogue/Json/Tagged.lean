import Dialogue.Json.Record

/-!
# Values of several kinds in JSON

Values of several kinds: a map with a member for the kind, the others being its operands, or a
sequence of the kind and the operands. The whole value is looked through for flaws and for its kind
before any operand is read.
-/

namespace Dialogue.Json

/-- The operands of a kind, as members or as items. -/
abbrev Operands := List (Key × Doc) ⊕ List Doc

/-- A kind of value and the reader of its operands. -/
structure Kind (α : Type) where
  name : String
  read : Operands → Reading α

/-- The member that names the kind. -/
def kindField : String := "kind"

/-- How the kind is told. Inside another value of this sort it may be given by position. -/
def readKind (nested : Bool) : Doc → Reading (String ⊕ Nat)
  | .text s => .ok (.inl s)
  | .number (.int n) =>
    if nested && 0 ≤ n then .ok (.inr n.toNat)
    else .error ((Doc.number (.int n)).reject "variant identifier")
  | d => .error (d.reject "variant identifier")

/-- Takes the kind out of the members. -/
def takeKind (nested : Bool) (close : Option Flaw) :
    Option (String ⊕ Nat) → List (Key × Doc) → Reading ((String ⊕ Nat) × List (Key × Doc))
  | kind, [] => do
    Flaw.check close
    match kind with
    | some k => return (k, [])
    | none => throw (.mismatch (.missingField kindField))
  | kind, (key, value) :: members => do
    let name ← key.read
    if name = kindField then
      if kind.isSome then throw (.mismatch (.duplicateField kindField))
      let k ← readKind nested value
      takeKind nested close (some k) members
    else
      Flaw.check value.readingFlaw
      let (k, operands) ← takeKind nested close kind members
      return (k, (key, value) :: operands)

/-- The kind and the operands of a document; `label` says what was expected. -/
def takeApart (label : String) (nested : Bool) : Doc → Reading ((String ⊕ Nat) × Operands)
  | .map members close => do
    let (kind, operands) ← takeKind nested close none members
    return (kind, .inl operands)
  | .seq [] close => do
    Flaw.check close
    throw (.mismatch (.missingField kindField))
  | .seq (item :: items) close => do
    let kind ← readKind nested item
    Flaw.check ((Doc.itemsReadingFlaw items).or close)
    return (kind, .inr items)
  | .deep .. => .error (.flaw .malformed)
  | d => .error (d.reject label)

/-- Operands of a kind that takes none. Members are ignored, items are not. -/
def readNothing {α : Type} (a : α) : Operands → Reading α
  | .inl _ => .ok a
  | .inr items =>
    if items.isEmpty then .ok a
    else .error (.mismatch (.invalidLength items.length (elements 0 ++ " in sequence")))

/-- Small letters and low lines turned into capitalized words without a break. -/
def capitalized (capital : Bool) : List Char → List Char
  | [] => []
  | c :: cs =>
    if c == '_' then capitalized true cs
    else (if capital then c.toUpper else c) :: capitalized false cs

/-- What a kind of a type is called in messages. -/
def variantLabel (type kind : String) : String :=
  "struct variant " ++ type ++ "::" ++ String.ofList (capitalized true kind.toList)

/-- An operand, which is only ever read by itself. -/
def operand {σ α : Type} (name : String) (read : Doc → Reading α) (set : α → σ → σ) : Field σ where
  name
  required := true
  read d := set <$> read d
  write _ := none

namespace Kind
variable {α β γ : Type}

/-- A kind without operands. -/
def plain (name : String) (a : α) : Kind α := ⟨name, readNothing a⟩

/-- A kind with one operand. -/
def one [Inhabited β] (type name field : String) (read : Doc → Reading β) (make : β → α) :
    Kind α where
  name
  read operands :=
    make <$> Format.readOperands
      ⟨variantLabel type name, default, [operand field read fun b _ => b]⟩ operands

/-- A kind with two operands. -/
def two [Inhabited β] [Inhabited γ] (type name : String)
    (field₁ : String) (read₁ : Doc → Reading β) (field₂ : String) (read₂ : Doc → Reading γ)
    (make : β → γ → α) : Kind α where
  name
  read operands :=
    (fun (s : β × γ) => make s.1 s.2) <$> Format.readOperands
      ⟨variantLabel type name, default, [
        operand field₁ read₁ fun b s => (b, s.2),
        operand field₂ read₂ fun c s => (s.1, c)]⟩ operands

def map (f : α → β) (k : Kind α) : Kind β where
  name := k.name
  read operands := f <$> k.read operands

end Kind

/-- Reads a value of one of the kinds; all other names and positions stand for `unknown`. -/
def readTagged {α : Type} (label : String) (nested : Bool) (kinds : List (Kind α)) (unknown : α)
    (d : Doc) : Reading α := do
  let (kind, operands) ← takeApart label nested d
  let known : Option (Kind α) := match kind with
    | .inl name => kinds.find? fun k => k.name == name
    | .inr position => kinds[position]?
  match known with
  | some k => k.read operands
  | none => readNothing unknown operands

/-- A value of a kind. -/
def writeTagged (kind : String) (operands : List (String × Json)) : Json :=
  .map ((kindField, .text kind) :: operands)

end Dialogue.Json
