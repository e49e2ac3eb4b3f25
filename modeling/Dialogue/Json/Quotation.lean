import Dialogue.Json.Doc

/-!
# Texts in JSON

Texts between quotes in a JSON text, with their escapes.
-/

namespace Dialogue.Json

/-- A text between quotes: read, or of no use to readers, or broken off. -/
inductive Quotation where
  | text (s : String)
  | unreadable
  | broken (reading skipping : Flaw)
  deriving DecidableEq

/-- The value of a hexadecimal digit. -/
def hexDigit? (c : Char) : Option Nat :=
  if c.isDigit then some (c.toNat - '0'.toNat)
  else if 'a' ≤ c && c ≤ 'f' then some (c.toNat - 'a'.toNat + 10)
  else if 'A' ≤ c && c ≤ 'F' then some (c.toNat - 'A'.toNat + 10)
  else none

/-- The number written by four hexadecimal digits. -/
def hexValue? (a b c d : Char) : Option Nat := do
  return (((← hexDigit? a) * 16 + (← hexDigit? b)) * 16 + (← hexDigit? c)) * 16 + (← hexDigit? d)

/-- The character that a letter after a backslash stands for. -/
def unescape? : Char → Option Char
  | '"' => some '"'
  | '\\' => some '\\'
  | '/' => some '/'
  | 'b' => some '\x08'
  | 'f' => some '\x0c'
  | 'n' => some '\n'
  | 'r' => some '\x0d'
  | 't' => some '\t'
  | _ => none

/-- The first half of a surrogate pair. -/
def isHighSurrogate (n : Nat) : Bool := 0xd800 ≤ n && n ≤ 0xdbff

/-- The second half of a surrogate pair. -/
def isLowSurrogate (n : Nat) : Bool := 0xdc00 ≤ n && n ≤ 0xdfff

/-- The character that a surrogate pair stands for. -/
def pairChar (high low : Nat) : Char :=
  Char.ofNat ((high - 0xd800) * 0x400 + (low - 0xdc00) + 0x10000)

/-- What has been read of a text so far. -/
structure Draft where
  /-- The characters, last one first. -/
  chars : List Char := []
  /-- No half of a surrogate pair has stood alone. -/
  sound : Bool := true
  /-- The first half of a pair that awaits the second. -/
  high : Option Nat := none

namespace Draft

/-- A half pair that does not get its other half spoils the text for readers. -/
def settle (d : Draft) : Draft := { d with sound := d.sound && d.high.isNone, high := none }

def push (d : Draft) (c : Char) : Draft :=
  let d := d.settle
  { d with chars := c :: d.chars }

/-- Takes in the unit written by an escape of four digits. -/
def pushUnit (d : Draft) (n : Nat) : Draft :=
  match d.high with
  | some m =>
    if isLowSurrogate n then { d with chars := pairChar m n :: d.chars, high := none }
    else d.settle
  | none =>
    if isHighSurrogate n then { d with high := some n }
    else if isLowSurrogate n then { d with sound := false }
    else { d with chars := Char.ofNat n :: d.chars }

def close (d : Draft) : Quotation :=
  let d := d.settle
  if d.sound then .text (String.ofList d.chars.reverse) else .unreadable

/-- The text breaks off with a flaw, unless a reader has met another before. -/
def stop (d : Draft) (flaw : Flaw) : Quotation :=
  .broken (if d.sound then flaw else .malformed) flaw

end Draft

/-- How many bytes a text takes. -/
def byteCount (cs : List Char) : Nat := (String.ofList cs).utf8ByteSize

/-- The text from after the opening quote on, and what follows the closing one. -/
def scanQuotation (d : Draft) : List Char → Quotation × Option (List Char)
  | [] => (d.stop .truncated, none)
  | ['\\'] => (d.stop .truncated, none)
  | '\\' :: 'u' :: a :: b :: c :: e :: cs =>
    match hexValue? a b c e with
    | some n => scanQuotation (d.pushUnit n) cs
    | none => (d.stop .malformed, none)
  | '\\' :: 'u' :: cs => (d.stop (if byteCount cs < 4 then .truncated else .malformed), none)
  | '\\' :: c :: cs =>
    match unescape? c with
    | some u => scanQuotation (d.push u) cs
    | none => (d.settle.stop .malformed, none)
  | '"' :: cs => (d.close, some cs)
  | c :: cs => if c < ' ' then (d.settle.stop .malformed, none) else scanQuotation (d.push c) cs

end Dialogue.Json
