import Dialogue.Decimal.Binary64

/-!
# Shortest decimals

The decimal of fewest digits that reads back as a given double, and its text.
-/

namespace Dialogue.Decimal

/-- The number `digits · 10 ^ power`. -/
structure Scientific where
  digits : Nat
  power : Int
  deriving DecidableEq

/-- The fraction `num / den` times `10 ^ power`. -/
def shift (num den : Nat) (power : Int) : Nat × Nat :=
  if 0 ≤ power then (num * Nat.pow 10 power.toNat, den)
  else (num, den * Nat.pow 10 (-power).toNat)

namespace Binary64

/-- Whether a fraction rounds to the double. The half-way points belong to it when its mantissa is
even; the gap below a power of two is half as wide as the gap above. -/
def rounds (x : Binary64) (num den : Nat) : Bool :=
  let (n, d) := x.fraction
  -- the fraction and the double over one denominator, and a quarter of the unit of the mantissa
  let unit := if 1074 ≤ x.exponent then 1 <<< (x.exponent - 1074) else 1
  let below := if x.mantissa == 1 <<< 52 && x.exponent != 0 then unit else 2 * unit
  let above := 2 * unit
  let value := 4 * num * d
  let low := (4 * n - below) * den
  let high := (4 * n + above) * den
  if x.mantissa % 2 == 0 then low ≤ value && value ≤ high else low < value && value < high

/-- The least `e` with `num < den · 10 ^ (e + 1)`: the place of the first digit. -/
def leadingPlace (num den : Nat) : Int :=
  if den ≤ num then ((List.range 400).takeWhile fun k => den * Nat.pow 10 (k + 1) ≤ num).length
  else -(((List.range 400).takeWhile fun k => num * Nat.pow 10 (k + 1) < den).length + 1 : Int)

/-- The nearest decimal of `count` digits that reads back as the double, of the two next to it. -/
def decimalOfLength (x : Binary64) (count : Nat) : Option Scientific :=
  let (n, d) := x.fraction
  let power := leadingPlace n d - (count - 1)
  let (num, den) := shift n d (-power)
  let floor := num / den
  let accepted (c : Nat) : Bool :=
    let (cn, cd) := shift c 1 power
    x.rounds cn cd
  let nearFloor := 2 * (num % den) < den || (2 * (num % den) == den && floor % 2 == 0)
  let candidates := if nearFloor then [floor, floor + 1] else [floor + 1, floor]
  (candidates.find? accepted).map (⟨·, power⟩)

/-- The decimal of fewest digits that reads back as the double. -/
def shortest (x : Binary64) : Scientific :=
  if x.isZero then ⟨0, 0⟩
  else (((List.range 17).map (· + 1)).findSome? x.decimalOfLength).getD ⟨0, 0⟩

end Binary64

/-- How numbers are written: positionally while the first digit stands between these places, and
otherwise as one digit, a point, the other digits and a signed power of ten. -/
structure Style where
  firstPlace : Int
  lastPlace : Int

/-- The notation of numbers in messages. -/
def messageStyle : Style := ⟨-5, 15⟩

/-- The text of a decimal. A whole number keeps one zero after the point. -/
def Scientific.text (style : Style) (x : Scientific) : String :=
  let digits := toString x.digits
  let place : Int := x.power + (digits.length - 1 : Int)
  -- zeros at the end of the digits carry no information
  let significant := String.ofList ((digits.toList.reverse.dropWhile (· == '0')).reverse)
  if x.digits == 0 then "0.0"
  else if style.firstPlace ≤ place && place ≤ style.lastPlace then
    if place < 0 then
      "0." ++ String.ofList (List.replicate (-place - 1).toNat '0') ++ significant
    else
      let whole := place.toNat + 1
      let padded := significant ++ String.ofList (List.replicate (whole - significant.length) '0')
      let fraction := String.ofList (padded.toList.drop whole)
      String.ofList (padded.toList.take whole) ++ "." ++
        (if fraction.isEmpty then "0" else fraction)
  else
    let fraction := String.ofList (significant.toList.drop 1)
    String.ofList (significant.toList.take 1) ++ (if fraction.isEmpty then "" else "." ++ fraction)
      ++ "e" ++ (if place < 0 then "-" else "+") ++ toString place.natAbs

end Dialogue.Decimal
