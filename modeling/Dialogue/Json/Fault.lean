import Dialogue.Json.Doc

/-!
# Faults in JSON

What can be wrong with a JSON text, for a reader that expects a certain shape.
-/

namespace Dialogue.Json

/-- A well-formed text that says something of the wrong shape. -/
inductive Mismatch where
  | missingField (name : String)
  | duplicateField (name : String)
  | invalidType (got : Shape) (expected : String)
  | invalidValue (n : Int) (expected : String)
  | invalidLength (n : Nat) (expected : String)
  | unknownVariant (name : String) (known : List String)
  deriving DecidableEq

/-- Why a text was not accepted. -/
inductive Fault where
  | flaw (f : Flaw)
  | mismatch (m : Mismatch)
  deriving DecidableEq

/-- A word of code in a message. -/
def ticked (s : String) : String := "`" ++ s ++ "`"

def Number.text : Number → String
  | .int n => toString n
  | .real negative size =>
    (if negative then "-" else "") ++ size.shortest.text Decimal.messageStyle

def Shape.message : Shape → String
  | .null => "null"
  | .bool b => "boolean " ++ ticked (toString b)
  | .number (.int n) => "integer " ++ ticked (toString n)
  | .number x => "floating point " ++ ticked x.text
  | .text s => "string " ++ Text.quoted s
  | .sequence => "sequence"
  | .map => "map"

/-- The names that were expected. -/
def alternatives : List String → String
  | [a, b] => "expected " ++ ticked a ++ " or " ++ ticked b
  | names => "expected one of " ++ ", ".intercalate (names.map ticked)

def Mismatch.message : Mismatch → String
  | .missingField name => "missing field " ++ ticked name
  | .duplicateField name => "duplicate field " ++ ticked name
  | .invalidType got expected => "invalid type: " ++ got.message ++ ", expected " ++ expected
  | .invalidValue n expected =>
    "invalid value: integer " ++ ticked (toString n) ++ ", expected " ++ expected
  | .invalidLength n expected => "invalid length " ++ toString n ++ ", expected " ++ expected
  | .unknownVariant name known => "unknown variant " ++ ticked name ++ ", " ++ alternatives known

end Dialogue.Json
