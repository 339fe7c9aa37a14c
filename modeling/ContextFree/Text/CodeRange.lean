/-!
# Ranges of code points

The tables of character properties list ranges. Case alternates letter by
letter in many scripts, so a range may count every second code point only.
-/

namespace ContextFree.Text

/-- The code points `first`, `first + step`, … up to `last`. -/
structure CodeRange where
  /-- The lowest code point of the range. -/
  first : Nat
  /-- The highest code point of the range. -/
  last : Nat
  /-- The distance from one member to the next. -/
  step : Nat

/-- Whether a code point lies in the range and on its steps. -/
def CodeRange.contains (r : CodeRange) (n : Nat) : Bool :=
  r.first ≤ n && n ≤ r.last && (n - r.first) % r.step == 0

end ContextFree.Text
