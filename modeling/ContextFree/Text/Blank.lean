/-!
# Blanks, words and lines

What separates symbols and lines in grammar text. Both classes are those of the
Unicode standard as text readers commonly use them: blanks are the characters
with the White_Space property and the four information separators, and a line
ends at any of the breaks a terminal honours, a carriage return with its line
feed counting once. Zero-width characters and the byte order mark are neither.

All functions work on lists of characters and recurse on them, so they can be
evaluated in proofs; `pieces` is the only splitter, and words, alternatives and
trimmed text are stated through it or through `dropWhile`.
-/

namespace ContextFree.Text

/-- Whether a character separates words. -/
def isBlank (c : Char) : Bool :=
  let n := c.toNat
  (9 ≤ n && n ≤ 13) || (28 ≤ n && n ≤ 32) || n == 0x85 || n == 0xA0 || n == 0x1680 ||
    (0x2000 ≤ n && n ≤ 0x200A) || n == 0x2028 || n == 0x2029 || n == 0x202F || n == 0x205F ||
    n == 0x3000

/-- Whether a character ends a line. -/
def isLineBreak (c : Char) : Bool :=
  let n := c.toNat
  (10 ≤ n && n ≤ 13) || (28 ≤ n && n ≤ 30) || n == 0x85 || n == 0x2028 || n == 0x2029

/-- Every line break is a blank, so a trimmed line is a trimmed text. -/
theorem isBlank_of_isLineBreak {c : Char} (h : isLineBreak c = true) : isBlank c = true := by
  simp only [isLineBreak, isBlank, Bool.or_eq_true, Bool.and_eq_true, decide_eq_true_eq,
    beq_iff_eq] at h ⊢
  omega

/-- The text without the blanks it starts with. -/
def trimLeft (cs : List Char) : List Char := cs.dropWhile isBlank

/-- The text without the blanks it ends with. -/
def trimRight (cs : List Char) : List Char := (cs.reverse.dropWhile isBlank).reverse

/-- The text without the blanks around it. -/
def trim (cs : List Char) : List Char := trimRight (trimLeft cs)

/-- Cuts a text at every character that passes a test; the cuts are dropped and
empty pieces are kept, so there is one piece more than there are cuts. -/
def pieces (cut : Char → Bool) : List Char → List (List Char)
  | [] => [[]]
  | c :: cs =>
    if cut c then [] :: pieces cut cs
    else match pieces cut cs with
      | [] => [[c]]
      | p :: ps => (c :: p) :: ps

theorem length_pieces (cut : Char → Bool) (cs : List Char) :
    (pieces cut cs).length = cs.countP cut + 1 := by
  induction cs with
  | nil => rfl
  | cons c cs ih =>
      unfold pieces
      split
      · next h => simp [h, ih]
      · next h =>
          rw [List.countP_cons_of_neg h, ← ih]
          split
          · next hn => rw [hn] at ih; simp at ih
          · next hn => simp [hn]

/-- The runs of characters between blanks. -/
def words (cs : List Char) : List (List Char) :=
  (pieces isBlank cs).filter fun p => !p.isEmpty

/-- The lines of a text, without what ends them. A break at the very end of the
text ends the last line and starts no other. -/
def lines : List Char → List (List Char)
  | [] => []
  | '\r' :: '\n' :: cs => [] :: lines cs
  | c :: cs =>
    if isLineBreak c then [] :: lines cs
    else match lines cs with
      | [] => [[c]]
      | l :: ls => (c :: l) :: ls

end ContextFree.Text
