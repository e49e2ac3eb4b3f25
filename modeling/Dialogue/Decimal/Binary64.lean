/-!
# Doubles

Binary floating point of double precision, as far as reading numbers needs it: magnitudes, their
rounding to the nearest double with ties to even, and the exact product or quotient of two of
them, rounded once.
-/

namespace Dialogue.Decimal

/-- The number `mantissa · 2 ^ (exponent - 1074)`, where the mantissa has at most 53 bits, and
exactly 53 unless the exponent is zero. -/
structure Binary64 where
  mantissa : Nat
  exponent : Nat
  deriving DecidableEq, Inhabited

namespace Binary64

/-- Zero is the mantissa zero. -/
def zero : Binary64 := ⟨0, 0⟩

def isZero (x : Binary64) : Bool := x.mantissa == 0

/-- The number as a fraction. -/
def fraction (x : Binary64) : Nat × Nat :=
  if 1074 ≤ x.exponent then (x.mantissa <<< (x.exponent - 1074), 1)
  else (x.mantissa, 1 <<< (1074 - x.exponent))

/-- The quotient rounded to the nearest integer, a half to the even one. -/
def divideEven (num den : Nat) : Nat :=
  let q := num / den
  let r := num % den
  if 2 * r < den then q else if den < 2 * r then q + 1 else q + q % 2

/-- The double nearest to a fraction; none if that is infinite. -/
def round (num den : Nat) : Option Binary64 :=
  -- the fraction in units of 2 ^ -1074, and how far it exceeds 53 bits
  let units := num <<< 1074
  let exponent := (units / den).log2 - 52
  let mantissa := divideEven units (den <<< exponent)
  let (mantissa, exponent) :=
    if mantissa == 1 <<< 53 then (1 <<< 52, exponent + 1) else (mantissa, exponent)
  if exponent ≤ 2045 then some ⟨mantissa, exponent⟩ else none

def times (x y : Binary64) : Option Binary64 :=
  round (x.fraction.1 * y.fraction.1) (x.fraction.2 * y.fraction.2)

def dividedBy (x y : Binary64) : Option Binary64 :=
  round (x.fraction.1 * y.fraction.2) (x.fraction.2 * y.fraction.1)

/-- The double nearest to `10 ^ n`. -/
def powerOfTen (n : Nat) : Option Binary64 := round (Nat.pow 10 n) 1

end Binary64

end Dialogue.Decimal
