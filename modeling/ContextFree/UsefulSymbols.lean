import ContextFree.Grammar.Transform
import ContextFree.Saturation

/-!
# Useful symbols

A variable is useful if it occurs in a derivation of a word from the start
symbol. It has to be terminating, that is, derive some word, and it has to be
reachable from the start symbol. The variables that do not terminate are taken
out first, with every rule that mentions them: afterwards a variable that is
reachable is reachable through rules that derive something.

If the start symbol does not terminate, the language is empty and the grammar is
left as it is.
-/

namespace ContextFree

namespace Grammar

/-- Whether every symbol is a terminal or a variable that is known to terminate. -/
def isSettled (known : LabelSet) (rhs : Rhs) : Bool :=
  rhs.all fun
    | .terminal _ => true
    | .nonterminal a => known.contains a

/-- The variables that derive some word. -/
def terminating (g : Grammar) : LabelSet :=
  saturate (fun known rules => rules.toList.any (isSettled known)) g.rules.entries ∅

/-- Adds to the known labels those that are registered and new, and collects the new
ones. -/
def discover (g : Grammar) (known : LabelSet) : List String → LabelSet × List String
  | [] => (known, [])
  | a :: rest =>
    if known.contains a || !g.hasVariable a then discover g known rest
    else
      let (known, found) := discover g (known.insert a) rest
      (known, a :: found)

/-- Adds to the known labels what the latest ones mention, then what those that were
new mention, and so on for the given number of rounds. -/
def reachWithin (g : Grammar) : Nat → LabelSet → List String → LabelSet
  | 0, known, _ => known
  | rounds + 1, known, latest =>
    let mentioned := latest.flatMap fun a => (g.rulesOf a).flatMap Rhs.nonterminals
    let (known, found) := g.discover known mentioned
    if found.isEmpty then known else reachWithin g rounds known found

/-- The variables that can be reached from the start symbol, and the start symbol
itself. Every round but the last reaches a variable that was not known. -/
def reachable (g : Grammar) : LabelSet :=
  g.reachWithin (g.rules.size + 1) (.ofList [g.start]) [g.start]

/-- Takes out all variables but the given ones. -/
def keepVariables (g : Grammar) (labels : LabelSet) : Grammar :=
  (g.variableLabels.filter fun a => !labels.contains a).foldl removeVariable g

end Grammar

/-- Takes out every variable, rule and terminal that no derivation of a word
needs. -/
def Transform.removeUseless : Transform Unit := do
  let g ← get
  let terminating := g.terminating
  if !terminating.contains g.start then throw (.emptyLanguage g.start)
  let g := g.keepVariables terminating
  set (g.keepVariables g.reachable).dropUnusedTerminals

end ContextFree
