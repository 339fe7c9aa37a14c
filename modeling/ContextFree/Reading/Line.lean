import ContextFree.Reading.Entry

/-!
# Grammar text

Grammar text has one rule on a line, a variable, an arrow and alternatives
between bars. Blank lines and lines that start with `#` are passed over. The
variable of the first rule is the start symbol unless another is named.

An arrow that stands apart from the variable is found first. If the variable is
followed by none, the arrow is looked for inside the run of characters that the
line starts with, and the last one there counts: `S->a` is a rule, and in
`S->a->b` the text before the second arrow is taken for the variable.
-/

namespace ContextFree

/-- What follows an arrow at the very start of a text. -/
def afterArrow? : List Char → Option (List Char)
  | '-' :: '>' :: cs => some cs
  | '→' :: cs => some cs
  | _ => none

/-- Cuts a text at the last arrow inside its leading run of characters that are
not blank. Something has to stand before the arrow. -/
def cutAtLastArrow? : List Char → Option (List Char × List Char)
  | [] => none
  | c :: cs =>
    if Text.isBlank c then none
    else
      match cutAtLastArrow? cs with
      | some (before, after) => some (c :: before, after)
      | none => (afterArrow? cs).map fun after => ([c], after)

/-- The two sides of a rule, as they stand around its arrow. -/
def ruleSides? (line : List Char) : Option (List Char × List Char) :=
  let cs := Text.trimLeft line
  let run := cs.takeWhile fun c => !Text.isBlank c
  match afterArrow? (Text.trimLeft (cs.dropWhile fun c => !Text.isBlank c)) with
  | some after => if run.isEmpty then none else some (run, after)
  | none => cutAtLastArrow? cs

/-- Whether a line holds no rule and is passed over. -/
def isPassedOver (line : List Char) : Bool :=
  match Text.trimLeft line with
  | [] => true
  | c :: _ => c == '#'

/-- The label and the alternatives of a line with a rule. -/
def readLine (spelling : Spelling) (number : Nat) (line : List Char) :
    Except ReadError (String × List (List String)) := do
  let some (lhs, rhs) := ruleSides? line
    | throw (.malformedLine number (String.ofList (Text.trim line)))
  let label ← readLeftSide spelling (.text (String.ofList lhs))
  return (label, spelling.alternatives (String.ofList rhs))

/-- The rules of a text, in order. Lines are counted from one, those passed over
included. -/
def readLines (spelling : Spelling) (text : String) :
    Except ReadError (List (String × List (List String))) :=
  let numbered := (Text.lines text.toList).zipIdx 1
  (numbered.filter fun l => !isPassedOver l.1).mapM fun l => readLine spelling l.2 l.1

/-- Reads grammar text. An empty name for the start symbol counts as none. -/
def Grammar.ofText (spelling : Spelling) (bounded : Bool) (start : Option String) (text : String) :
    Except ReadError Grammar := do
  let rules ← readLines spelling text
  match rules with
  | [] => throw .noRules
  | (first, _) :: _ =>
    let start := (start.filter (!·.isEmpty)).getD first
    if (rules.map Prod.fst).contains start then
      return rules.foldl (fun g r => g.load r.1 r.2) (Grammar.blank start bounded)
    else throw (.startWithoutRules (.text start))

end ContextFree
