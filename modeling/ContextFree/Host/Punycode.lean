/-!
# Punycode

Writes a text in ASCII so that it can be read back: first the ASCII characters of the
text, then where the others come in between. The others come in the order of their
code points, and of each it is told how many steps it takes to get there from the one
before, where a step goes on by one place, and from the last place to the next code
point.

A number of steps is written in digits from the least to the most significant. From
the size of a digit one can tell whether it is the last one. What counts as large
adapts to the numbers written before, so that short distances take few digits.

Reading goes the same way and lets each character in where its steps lead. Not every
text in ASCII can be read: a number may break off, and the steps may lead beyond the
last code point.
-/

namespace ContextFree.Host.Punycode

/-- The number of digits there are: the letters, then the ten figures. -/
def base : Nat := 36

/-- A digit. -/
def digit (n : Nat) : Char :=
  if n < 26 then Char.ofNat ('a'.toNat + n) else Char.ofNat ('0'.toNat + (n - 26))

/-- The smallest digit that has another after it, at a weight and under a bias. -/
def threshold (weight bias : Nat) : Nat :=
  if weight ≤ bias then 1 else min (weight - bias) 26

theorem threshold_pos (weight bias : Nat) : 0 < threshold weight bias := by
  unfold threshold; split <;> omega

/-- The digits of a number, from the given weight on. -/
def digitsFrom (bias weight n : Nat) : List Char :=
  let t := threshold weight bias
  if n < t then [digit n]
  else digit (t + (n - t) % (base - t)) :: digitsFrom bias (weight + base) ((n - t) / (base - t))
termination_by n
decreasing_by
  have := threshold_pos weight bias
  have := Nat.div_le_self (n - threshold weight bias) (base - threshold weight bias)
  omega

/-- The digits of a number of steps. -/
def digits (bias n : Nat) : List Char := digitsFrom bias base n

/-- The value of a digit, in either case. -/
def digitValue? (c : Char) : Option Nat :=
  let c := c.toLower
  if 'a' ≤ c ∧ c ≤ 'z' then some (c.toNat - 'a'.toNat)
  else if '0' ≤ c ∧ c ≤ '9' then some (c.toNat - '0'.toNat + 26)
  else none

/-- The number that is written at the start of a text, from the given weight on, and
what follows it. -/
def readFrom (bias weight : Nat) : List Char → Option (Nat × List Char)
  | [] => none
  | c :: cs => do
    let d ← digitValue? c
    let t := threshold weight bias
    if d < t then return (d, cs)
    let (n, rest) ← readFrom bias (weight + base) cs
    return (d + (base - t) * n, rest)

/-- The number of steps that is written at the start of a text, and what follows it. -/
def read (bias : Nat) (cs : List Char) : Option (Nat × List Char) := readFrom bias base cs

/-- The weight from which on digits are large, and what is left of the number. -/
def damp (weight n : Nat) : Nat × Nat :=
  if 455 < n then damp (weight + base) (n / 35) else (weight, n)
termination_by n
decreasing_by omega

/-- The bias after a number of steps was written, for a text of so many characters by
then. The first number tells little about the next. -/
def adapt (isFirst : Bool) (n length : Nat) : Nat :=
  let n := if isFirst then n / 700 else n / 2
  let (weight, n) := damp 0 (n + n / length)
  weight + base * n / (n + 38)

/-- A text that is partly written. -/
structure Progress where
  /-- The digits so far, last first. -/
  written : List Char
  /-- How many characters are placed. -/
  placed : Nat
  /-- The number of steps since the last of them. -/
  steps : Nat
  /-- The bias. -/
  bias : Nat

/-- Goes over one place of the text, on the way for one code point. Only characters
that are placed by now count as places. -/
def Progress.pass (basic point : Nat) (p : Progress) (c : Char) : Progress :=
  if c.toNat < point then { p with steps := p.steps + 1 }
  else if c.toNat = point then
    { written := (digits p.bias p.steps).reverse ++ p.written
      placed := p.placed + 1
      steps := 0
      bias := adapt (p.placed == basic) p.steps (p.placed + 1) }
  else p

/-- Places the characters of the code points, which are in order. The place to begin
with is at the start of the text, on the way for the code point `next`. -/
def placeAll (text : List Char) (basic : Nat) : Nat → List Nat → Progress → Progress
  | _, [], p => p
  | next, point :: points, p =>
    let p := { p with steps := p.steps + (point - next) * (p.placed + 1) }
    let p := text.foldl (Progress.pass basic point) p
    placeAll text basic (point + 1) points { p with steps := p.steps + 1 }

/-- Whether a character is written as it is. -/
def isBasic (c : Char) : Bool := c.toNat < 128

/-- The code points beyond ASCII of a text, in order and without repetitions. -/
def points (text : List Char) : List Nat :=
  ((text.filter fun c => !isBasic c).map Char.toNat).mergeSort.eraseReps

/-- Writes a text in ASCII. -/
def encode (text : List Char) : List Char :=
  let basic := text.filter isBasic
  let p := placeAll text basic.length 128 (points text) ⟨[], basic.length, 0, 72⟩
  basic ++ (if basic.isEmpty then [] else ['-']) ++ p.written.reverse

/-- A text that is partly read. -/
structure Draft where
  /-- The characters that are placed. -/
  text : List Char
  /-- The code point that is on the way. -/
  point : Nat
  /-- The place from which on steps count. -/
  start : Nat
  /-- The bias. -/
  bias : Nat

/-- Goes a number of steps and places the character there, if its code point is that
of a character. -/
def Draft.place? (basic steps : Nat) (d : Draft) : Option Draft :=
  let places := d.text.length + 1
  let point := d.point + (d.start + steps) / places
  let place := (d.start + steps) % places
  if point.isValidChar then
    some {
      text := d.text.insertIdx place (Char.ofNat point)
      point := point
      start := place + 1
      bias := adapt (d.text.length == basic) steps places }
  else none

/-- Places the characters whose steps are written. Every number takes a digit, so that
there are no more of them than the text has characters. -/
def readAll (basic : Nat) : Nat → List Char → Draft → Option (List Char)
  | _, [], d => some d.text
  | 0, _, _ => none
  | fuel + 1, cs, d => do
    let (steps, rest) ← read d.bias cs
    readAll basic fuel rest (← d.place? basic steps)

/-- Reads a text that is written in ASCII. The digits follow the last hyphen. -/
def decode? (cs : List Char) : Option (List Char) :=
  let digits := (cs.reverse.takeWhile (· ≠ '-')).reverse
  let basic := cs.take (cs.length - digits.length - 1)
  readAll basic.length digits.length digits ⟨basic, 128, 0, 72⟩

end ContextFree.Host.Punycode
