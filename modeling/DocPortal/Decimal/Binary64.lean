/-!
# Binary floating point and decimals

A double is an integer times a power of two. A decimal is read as the double nearest to it, of two equally
near ones the even one. A double is written as the shortest decimal that is read back as it, of several the
nearest, and of two equally near ones the larger.
-/

namespace DocPortal

/-- A finite double without its sign: `mantissa · 2 ^ exponent`. -/
structure Binary64 where
  mantissa : Nat
  exponent : Int
  deriving DecidableEq, Repr

/-- A decimal without its sign: `digits · 10 ^ exponent`. -/
structure Decimal where
  digits : Nat
  exponent : Int
  deriving DecidableEq, Repr

namespace Decimal

/-- The quotient rounded to the nearest integer, a half to the even one. -/
def roundDiv (num den : Nat) : Nat :=
  let quotient := num / den
  let twice := 2 * (num % den)
  if twice > den ∨ (twice = den ∧ quotient % 2 = 1) then quotient + 1 else quotient

/-- The least exponent of a double. -/
def leastExponent : Int := -1074

/-- The greatest exponent of a double whose mantissa has 53 bits. -/
def greatestExponent : Int := 971

/-- The double nearest to a positive quotient, unless it is out of range. -/
def nearestQuotient? (num den : Nat) : Option Binary64 :=
  let guess := max ((num.log2 : Int) - den.log2 - 53) leastExponent
  let scaled (e : Int) : Nat × Nat := (num * Nat.pow 2 (-e).toNat, den * Nat.pow 2 e.toNat)
  let exponent := if (scaled guess).1 / (scaled guess).2 < Nat.pow 2 53 then guess else guess + 1
  let mantissa := roundDiv (scaled exponent).1 (scaled exponent).2
  let value : Binary64 :=
    if mantissa = Nat.pow 2 53 then ⟨Nat.pow 2 52, exponent + 1⟩ else ⟨mantissa, exponent⟩
  if value.exponent > greatestExponent then none else some value

/-- The double nearest to a decimal, unless it is out of range. Decimals far outside the range are told by
their number of digits. -/
def nearest? (d : Decimal) : Option Binary64 :=
  let magnitude := ((Nat.toDigits 10 d.digits).length : Int) + d.exponent
  if d.digits = 0 ∨ magnitude < -330 then some ⟨0, 0⟩
  else if magnitude > 310 then none
  else nearestQuotient? (d.digits * Nat.pow 10 d.exponent.toNat) (Nat.pow 10 (-d.exponent).toNat)

/-- The decimal in digits with a point and at least one digit on each side of it. -/
def positional (d : Decimal) : List Char :=
  let digits := Nat.toDigits 10 d.digits
  if d.exponent ≥ 0 then digits ++ List.replicate d.exponent.toNat '0' ++ ['.', '0']
  else
    let places := (-d.exponent).toNat
    let padded := List.replicate (places + 1 - digits.length) '0' ++ digits
    padded.take (padded.length - places) ++ '.' :: padded.drop (padded.length - places)

end Decimal

namespace Binary64

/-- The ends of the interval of numbers that are read as a double, in quarters of its unit. Below a power of
two the doubles lie twice as close. -/
def interval (x : Binary64) : Nat × Nat :=
  let low := if x.mantissa = Nat.pow 2 52 ∧ x.exponent > Decimal.leastExponent then 4 * x.mantissa - 1
    else 4 * x.mantissa - 2
  (low, 4 * x.mantissa + 2)

/-- The multiple of `10 ^ p` that is read as the double, if there is one: the nearest, and of two equally
near ones the larger. -/
def multipleOf? (x : Binary64) (p : Int) : Option Nat :=
  let quarter := x.exponent - 2
  let scale := Nat.pow 2 quarter.toNat * Nat.pow 10 (-p).toNat
  let unit := Nat.pow 10 p.toNat * Nat.pow 2 (-quarter).toNat
  let value := 4 * x.mantissa * scale
  let low := x.interval.1 * scale
  let high := x.interval.2 * scale
  let inside (c : Nat) : Bool :=
    if x.mantissa % 2 = 0 then low ≤ c * unit && c * unit ≤ high
    else low < c * unit && c * unit < high
  let below := value / unit
  let above := below + 1
  let preferAbove : Bool := above * unit - value ≤ value - below * unit
  if inside below && !(inside above && preferAbove) then some below
  else if inside above then some above
  else none

/-- The first hit on the grids `10 ^ p`, `10 ^ (p - 1)`, …, of which `n` are tried. -/
def shortestFrom (x : Binary64) : Nat → Int → Decimal
  | 0, p => ⟨0, p⟩
  | n + 1, p => match x.multipleOf? p with
    | some c => ⟨c, p⟩
    | none => x.shortestFrom n (p - 1)

/-- The shortest decimal that is read as the double. The coarsest grid with a hit has the fewest digits; the
grids go down to the place of the seventeenth digit of the least double. -/
def shortest (x : Binary64) : Decimal := if x.mantissa = 0 then ⟨0, 0⟩ else x.shortestFrom 652 310

end Binary64
end DocPortal
