import ContextFree.Decimal.Shortest

/-!
# How a binary number is written

The digits come from the shortest decimal. Numbers of moderate size are written
with a point and all their places, so that `16.0` and `0.0001` stay readable;
the others have one digit before the point and an exponent of at least two
digits with its sign.
-/

namespace ContextFree.Binary64

/-- The lowest decimal exponent that is written with all its places. -/
def leastPositional : Int := -4

/-- The lowest decimal exponent that is too large for that. -/
def positionalBound : Int := 16

/-- Digits with all their places: `a * 10 ^ p` for the digits of `a`. -/
def positional (digits : List Char) (p : Int) : List Char :=
  let whole := (digits.length : Int) + p
  if 0 ≤ p then digits ++ List.replicate p.toNat '0' ++ ['.', '0']
  else if 0 < whole then digits.take whole.toNat ++ '.' :: digits.drop whole.toNat
  else '0' :: '.' :: List.replicate (-whole).toNat '0' ++ digits

/-- Digits with one place before the point, and an exponent. -/
def scientific (digits : List Char) (exponent : Int) : List Char :=
  let fraction := if digits.length ≤ 1 then [] else '.' :: digits.drop 1
  let sign := if exponent < 0 then '-' else '+'
  let places := Nat.toDigits 10 exponent.natAbs
  digits.take 1 ++ fraction ++ 'e' :: sign :: List.replicate (2 - places.length) '0' ++ places

/-- The text of a number. -/
def text : Binary64 → String
  | .nan => "nan"
  | .infinite negative => if negative then "-inf" else "inf"
  | .finite negative m q =>
    let body :=
      if m = 0 then ['0', '.', '0']
      else
        let (a, p) := shortest m q
        let digits := Nat.toDigits 10 a
        let exponent := (digits.length : Int) - 1 + p
        if leastPositional ≤ exponent ∧ exponent < positionalBound then positional digits p
        else scientific digits exponent
    String.ofList (if negative then '-' :: body else body)

end ContextFree.Binary64
