import ContextFree.Decimal.Binary64

/-!
# The shortest decimal of a binary number

A number of the binary format is written with the fewest decimal digits that
read back as the same number; among those decimals the nearest one is taken, and
the even one of two that are equally near.

All decimals that read back as `m * 2 ^ q` lie between the midpoints to its two
neighbours in the format, the midpoints included exactly when `m` is even. On a
decimal grid only the two grid points around the number can be the nearest ones
inside, so it is enough to look at these two, on coarse grids first.
-/

namespace ContextFree.Binary64

/-- Compares `a * 10 ^ p` with `b * 2 ^ e`, both sides cleared of fractions. -/
def compareScaled (a : Nat) (p : Int) (b : Nat) (e : Int) : Ordering :=
  let (a', tens) := scaled 10 a 1 p
  let (b', twos) := scaled 2 b 1 e
  compare (a' * twos) (b' * tens)

/-- Four times the mantissa of the midpoint to the lower neighbour. At a power of
two the lower neighbour is half as far away as the upper one. -/
def lowerMidpoint (m : Nat) (q : Int) : Nat :=
  if m = mantissaBound / 2 ∧ minExponent < q then 4 * m - 1 else 4 * m - 2

/-- Whether the decimal `a * 10 ^ p` reads back as `m * 2 ^ q`. -/
def readsBack (m : Nat) (q : Int) (a : Nat) (p : Int) : Bool :=
  let low := compareScaled a p (lowerMidpoint m q) (q - 2)
  let high := compareScaled a p (4 * m + 2) (q - 2)
  (low == .gt || (low == .eq && m % 2 == 0)) && (high == .lt || (high == .eq && m % 2 == 0))

/-- How many times `10 ^ p` goes into `m * 2 ^ q`, as a fraction. -/
def inUnits (m : Nat) (q p : Int) : Nat × Nat :=
  let (num, den) := scaled 2 m 1 q
  scaled 10 num den (-p)

/-- The multiple of `10 ^ p` that reads back as `m * 2 ^ q` and is nearest to it,
if there is one. -/
def onGrid? (m : Nat) (q p : Int) : Option Nat :=
  let (num, den) := inUnits m q p
  let below := num / den
  let nearest := roundedDiv num den
  let farther := if nearest = below then below + 1 else below
  if readsBack m q nearest p then some nearest
  else if readsBack m q farther p then some farther
  else none

/-- Tries grids from `10 ^ p` downwards. -/
def firstOnGrid (m : Nat) (q : Int) : Nat → Int → Nat × Int
  | 0, p => (roundedDiv (inUnits m q p).1 (inUnits m q p).2, p)
  | grids + 1, p =>
    match onGrid? m q p with
    | some a => (a, p)
    | none => firstOnGrid m q grids (p - 1)

/-- The shortest decimal `a * 10 ^ p` that reads back as `m * 2 ^ q`. The first
grid is not finer than the number itself, and seventeen digits always suffice. -/
def shortest (m : Nat) (q : Int) : Nat × Int :=
  let (num, den) := scaled 2 m 1 q
  let digits (n : Nat) : Int := (Nat.toDigits 10 n).length
  firstOnGrid m q 20 (digits num - digits den + 1)

end ContextFree.Binary64
