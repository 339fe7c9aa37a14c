import ContextFree.Symbol
import ContextFree.Text.Blank

/-!
# How symbols are spelled

Rules and words are written in one of two ways. In the compact spelling every
character that is not blank is a symbol of its own. In the spaced spelling a
symbol is a run of characters between blanks, and variables are identifiers.

A spelling says how a text splits into labels, which labels may stand on the
left of a rule, and what is put between the labels of a word when it is shown.
-/

namespace ContextFree

/-- A way of writing sequences of symbols. -/
inductive Spelling where
  /-- One symbol per character. -/
  | compact
  /-- Symbols between blanks. -/
  | spaced
  deriving DecidableEq, Inhabited

/-- Whether a character may stand in an identifier after the first place. -/
def isIdentifierChar (c : Char) : Bool := c.isAlphanum || c == '_'

/-- Whether a text is an identifier: an ASCII capital, then letters, digits and
underscores, and at most one apostrophe at the end. -/
def isIdentifier : List Char → Bool
  | [] => false
  | c :: cs =>
    'A' ≤ c && c ≤ 'Z' && (cs.dropWhile isIdentifierChar == [] ||
      cs.dropWhile isIdentifierChar == ['\''])

namespace Spelling

/-- The spelling with spaces, or the one without. -/
def ofBool (spaced : Bool) : Spelling := if spaced then .spaced else .compact

/-- The labels of a text. -/
def split (spelling : Spelling) (cs : List Char) : List String :=
  match spelling with
  | .compact => (cs.filter fun c => !Text.isBlank c).map String.singleton
  | .spaced => (Text.words cs).map String.ofList

/-- What stands between the labels of a word. -/
def separator : Spelling → String
  | .compact => ""
  | .spaced => " "

/-- The text of a word. -/
def join (spelling : Spelling) (word : Word) : String := spelling.separator.intercalate word

/-- Whether a trimmed text may stand on the left of a rule. -/
def isLeftSide (spelling : Spelling) (cs : List Char) : Bool :=
  match spelling with
  | .compact => cs.length == 1 && cs.any Text.isUppercase
  | .spaced => isIdentifier cs

/-- The alternatives of a right-hand side, each as its labels. Bars separate
alternatives, and labels that stand for the empty word are dropped; so an
alternative without labels is the empty word. -/
def alternatives (spelling : Spelling) (text : String) : List (List String) :=
  (Text.pieces (· == '|') text.toList).map fun alternative =>
    (spelling.split alternative).filter fun a => !emptyMarks.contains a

end Spelling

end ContextFree
