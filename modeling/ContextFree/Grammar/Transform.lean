import ContextFree.Grammar.Label

/-!
# Changing a grammar in place

A transform works on a grammar and may stop on its way. What it had done by then
stays done: an error leaves the grammar as it was at that moment, not as it was
at the beginning. That is exactly what the state-and-error monad without
backtracking says, so transforms are programs in it.
-/

namespace ContextFree

/-- Why a transform stopped. -/
inductive TransformError where
  /-- The label of a new start symbol belongs to a symbol already. -/
  | duplicateSymbol (label : String)
  /-- A fresh label is needed and all letters are taken. -/
  | labelsExhausted
  /-- The start symbol derives no word. -/
  | emptyLanguage (start : String)
  /-- Single-nonterminal rules are left after the given number of passes. -/
  | unitsRemain (passes : Int)
  deriving DecidableEq

/-- The wording of an error. -/
def TransformError.message : TransformError → String
  | .duplicateSymbol label => "Grammar already contains the symbol '" ++ label ++ "'."
  | .labelsExhausted => "No available non-terminal labels left."
  | .emptyLanguage start => "This grammar does not terminate on start symbol: " ++ start ++ "."
  | .unitsRemain passes =>
    "Unit-production removal did not converge after " ++ toString passes ++ " passes."

/-- A program that changes a grammar in place. -/
abbrev Transform (α : Type) := EStateM TransformError Grammar α

namespace Transform

/-- Draws the label that comes next. -/
def freshLabel : Transform String := do
  match (← get).freshLabel? with
  | some label => return label
  | none => throw .labelsExhausted

/-- Makes a new variable the start symbol, with the old start symbol as its one
rule. It is listed before all others. -/
def replaceStart (label : String) : Transform Unit := do
  let g ← get
  if g.hasSymbol label then throw (.duplicateSymbol label)
  set { g with
    start := label
    rules := g.rules.insertFirst label (.singleton [.nonterminal g.start]) }

end Transform

end ContextFree
