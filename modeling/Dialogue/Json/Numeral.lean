import Dialogue.Json.Doc

/-!
# Numbers in JSON

Numbers in a JSON text. Integers are exact as long as they fit a word of 64 bits. All other numbers
are doubles: as many leading digits as fit an unsigned word, multiplied or divided by one power of
ten, each step rounded.
-/

namespace Dialogue.Json
open Decimal

/-- The largest integer a significand can reach. -/
def maxSignificand : Nat := 18446744073709551615

def digitValue (c : Char) : Nat := c.toNat - '0'.toNat

/-- Appends digits to a significand while it fits, and counts those left over. -/
def appendDigits (significand : Nat) : List Char → Nat × Nat
  | [] => (significand, 0)
  | c :: cs =>
    let next := significand * 10 + digitValue c
    if next ≤ maxSignificand then appendDigits next cs else (significand, cs.length + 1)

/-- The double for a significand times a power of ten; none if it is infinite. -/
def scaled (significand : Nat) (power : Int) : Option Binary64 := do
  let f ← Binary64.round significand 1
  if f.isZero then some f
  else if 308 < power then none
  else if 0 ≤ power then f.times (← Binary64.powerOfTen power.toNat)
  else if -308 ≤ power then f.dividedBy (← Binary64.powerOfTen (-power).toNat)
  else if -616 ≤ power then
    let g ← f.dividedBy (← Binary64.powerOfTen 308)
    g.dividedBy (← Binary64.powerOfTen (-power - 308).toNat)
  else some .zero

/-- The parts of a number as written. -/
structure Numeral where
  negative : Bool
  whole : List Char
  fraction : Option (List Char)
  /-- Whether the exponent is negative, and its digits. -/
  exponent : Option (Bool × List Char)

/-- The value of a numeral; none if it is beyond all doubles. A minus before zero makes it a
double, as no integer has that value. -/
def Numeral.value (x : Numeral) : Option Number :=
  let (significand, left) := appendDigits 0 x.whole
  let real (significand : Nat) (power : Int) : Option Number :=
    (scaled significand power).map (.real x.negative ·)
  match x.fraction, x.exponent with
  | none, none =>
    if left != 0 then real significand left
    else if !x.negative then some (.int significand)
    else if significand != 0 && significand ≤ 9223372036854775808 then some (.int (-significand))
    else real significand 0
  | _, _ =>
    let fraction := x.fraction.getD []
    let (full, ignored) := appendDigits significand fraction
    let power : Int := left - (fraction.length - ignored : Nat)
    let power := match x.exponent with
      | none => power
      | some (negative, digits) =>
        let e : Int := digits.foldl (fun n c => n * 10 + digitValue c) 0
        if negative then power - e else power + e
    real full power

/-- A document, and what follows it in the text if the text can be followed so far. -/
abbrev Found := Doc × Option (List Char)

/-- A value broken off in a number. The end of the text is a flaw of its own only for readers. -/
def brokenNumber (rest : List Char) : Found :=
  (.broken ⟨.other, if rest.isEmpty then .truncated else .malformed, .malformed⟩, none)

/-- The document for a numeral. -/
def Numeral.found (x : Numeral) (rest : List Char) : Found :=
  match x.value with
  | some n => (.number n, some rest)
  | none => (.unreadable, some rest)

/-- The text from an optional exponent on. -/
def scanExponent (x : Numeral) (cs : List Char) : Found :=
  match cs with
  | c :: rest =>
    if c == 'e' || c == 'E' then
      let (negative, rest) := match rest with
        | '+' :: rest => (false, rest)
        | '-' :: rest => (true, rest)
        | rest => (false, rest)
      let digits := rest.takeWhile Char.isDigit
      if digits.isEmpty then brokenNumber rest
      else { x with exponent := some (negative, digits) }.found (rest.dropWhile Char.isDigit)
    else x.found cs
  | [] => x.found []

/-- The text from the first digit of a number on. -/
def scanNumber (negative : Bool) (cs : List Char) : Found :=
  let whole := cs.takeWhile Char.isDigit
  let rest := cs.dropWhile Char.isDigit
  if whole.isEmpty then brokenNumber cs
  else if whole.head? == some '0' && whole.length != 1 then
    (.broken ⟨.other, .malformed, .malformed⟩, none)
  else
    let x : Numeral := ⟨negative, whole, none, none⟩
    match rest with
    | '.' :: rest =>
      let fraction := rest.takeWhile Char.isDigit
      if fraction.isEmpty then brokenNumber rest
      else scanExponent { x with fraction := some fraction } (rest.dropWhile Char.isDigit)
    | rest => scanExponent x rest

end Dialogue.Json
