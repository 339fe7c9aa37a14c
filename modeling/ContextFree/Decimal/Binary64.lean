/-!
# Binary floating-point numbers

Numbers with a point or an exponent are held in the 64-bit binary format, so a
decimal is rounded when it is read. The rounding is done here in exact integer
arithmetic, to the nearest number of the format and to the even one of two that
are equally near, and no hardware arithmetic is involved: a proof can follow
every step.

A finite number is `mantissa * 2 ^ exponent`, with the sign apart because the
format has two zeros.
-/

namespace ContextFree

/-- A number of the 64-bit binary format. -/
inductive Binary64 where
  | nan
  | infinite (negative : Bool)
  | finite (negative : Bool) (mantissa : Nat) (exponent : Int)
  deriving DecidableEq, Inhabited

namespace Binary64

/-- The lowest exponent of the format, that of the subnormal numbers. -/
def minExponent : Int := -1074

/-- The highest exponent of the format. -/
def maxExponent : Int := 971

/-- Every mantissa of the format is below this bound. -/
def mantissaBound : Nat := Nat.pow 2 53

/-- The zero of a given sign. -/
def zero (negative : Bool) : Binary64 := .finite negative 0 minExponent

/-- Whether a number is one of the two zeros. -/
def isZero : Binary64 → Bool
  | .finite _ m _ => m == 0
  | _ => false

/-- The quotient of two naturals, rounded to the nearest natural and to the even
one of two that are equally near. -/
def roundedDiv (num den : Nat) : Nat :=
  let k := num / den
  let r := 2 * (num % den)
  if r < den then k else if den < r then k + 1 else if k % 2 = 0 then k else k + 1

/-- A fraction as numerator and denominator after multiplication by a power of
the base, whose exponent may be negative. -/
def scaled (base : Nat) (num den : Nat) (exponent : Int) : Nat × Nat :=
  (num * base.pow exponent.toNat, den * base.pow (-exponent).toNat)

/-- The number of the format nearest to `num / den`, for positive parts. The
exponent is the one that brings the quotient just below the mantissa bound, and
at least that of the subnormal numbers. -/
def ofFraction (negative : Bool) (num den : Nat) : Binary64 :=
  let guess : Int := (num.log2 : Int) - (den.log2 : Int) - 53
  let tooSmall :=
    let (n, d) := scaled 2 num den (-guess)
    mantissaBound ≤ n / d
  let exponent := max minExponent (if tooSmall then guess + 1 else guess)
  let (n, d) := scaled 2 num den (-exponent)
  let m := roundedDiv n d
  let (m, exponent) := if m = mantissaBound then (mantissaBound / 2, exponent + 1) else (m, exponent)
  if maxExponent < exponent then .infinite negative else .finite negative m exponent

/-- The number of the format nearest to `coefficient * 10 ^ exponent`. Decimals
far outside the range of the format are settled by their magnitude, so that no
huge power is ever formed. -/
def ofDecimal (negative : Bool) (coefficient : Nat) (exponent : Int) : Binary64 :=
  let magnitude : Int := (Nat.toDigits 10 coefficient).length + exponent
  if coefficient = 0 ∨ magnitude < -330 then zero negative
  else if 310 < magnitude then .infinite negative
  else
    let (num, den) := scaled 10 coefficient 1 exponent
    ofFraction negative num den

end Binary64

end ContextFree
