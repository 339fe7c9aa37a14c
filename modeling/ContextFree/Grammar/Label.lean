import ContextFree.Grammar.Basic
import ContextFree.Text.Digits

/-!
# Fresh labels

Changing a grammar needs labels that no symbol has. They are drawn in a fixed
order: the single letters first, then `X1`, `X2` and so on. A bounded grammar
stops after the letters.

The first free number is found by marking those of the labels that are taken.
Labels of different numbers differ, so among one number more than there are taken
labels there is a free one.
-/

namespace ContextFree

/-- The labels of one letter, in the order in which they are drawn. -/
def letterLabels : List String :=
  "ABCDEFGHIJKLMNOPQRSTUVWXYZ".toList.map String.singleton

/-- The numbered labels that follow the letters. -/
def numberedLabel (n : Nat) : String := "X" ++ toString n

/-- The number of a numbered label. -/
def labelNumber? (label : String) : Option Nat :=
  match label.toList with
  | 'X' :: digits =>
    let n := Text.decimalValue digits
    if numberedLabel n = label then some n else none
  | _ => none

/-- The first numbered label that is not taken. -/
def firstNumbered (taken : List String) : String :=
  let numbers := taken.filterMap labelNumber?
  let marks := numbers.foldl (fun marks n => marks.setIfInBounds n true)
    (Array.replicate (numbers.length + 2) false)
  numberedLabel (marks.toList.tail.idxOf false + 1)

namespace Grammar

/-- Whether a symbol of either kind has the label. -/
def hasSymbol (g : Grammar) (label : String) : Bool :=
  g.hasVariable label || g.terminals.toList.contains label

/-- The first label, in the order in which they are drawn, that no symbol has. A
bounded grammar may have none. -/
def freshLabel? (g : Grammar) : Option String :=
  match letterLabels.find? fun a => !g.hasSymbol a with
  | some a => some a
  | none =>
    if g.bounded then none else some (firstNumbered (g.variableLabels ++ g.terminals.toList))

end Grammar

end ContextFree
