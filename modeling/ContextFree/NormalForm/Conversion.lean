import ContextFree.NormalForm.Pair
import ContextFree.Simplification

/-!
# Conversion to normal form

In Chomsky's normal form every rule is a single terminal or two nonterminals, and
the start symbol stands in no rule. A start symbol that does is replaced first,
by a variable that derives it. After simplification only rules of two or more
symbols can be out of form: their terminals are replaced by standalone variables,
then pairs of neighbours are, until two symbols are left.

The rules that conversion makes for its own variables are in form already, so it
is enough to go once through the rules the grammar has after simplification.
-/

namespace ContextFree

namespace Conversion

/-- Puts standalone variables in the place of all terminals. -/
def liftTerminals (rhs : Rhs) : Conversion Rhs :=
  rhs.mapM fun
    | .terminal a => return .nonterminal (← standaloneFor [.terminal a])
    | .nonterminal a => return .nonterminal a

/-- Replaces pairs of neighbours, as many as given. -/
def replacePairs : Nat → Rhs → Conversion Rhs
  | 0, rhs => return rhs
  | n + 1, rhs => do
    match rhs.nextPair? (← get).standalones with
    | none => return rhs
    | some (index, a, b) =>
      let label ← standaloneFor [a, b]
      replacePairs n (rhs.replacePair index (.nonterminal label))

/-- Replaces pairs of neighbours until at most two symbols are left. -/
def shorten (rhs : Rhs) : Conversion Rhs := replacePairs (rhs.length - 2) rhs

/-- Brings one rule into form, in the place where it stands. -/
def convertProduction (p : Production) : Conversion Unit := do
  if !p.rhs.isNormal then
    let rhs ← shorten (← liftTerminals p.rhs)
    modify fun w =>
      { w with grammar := w.grammar.modifyRules p.lhs (·.replace p.rhs rhs) }

/-- Brings every rule into form. -/
def convertAll : Conversion Unit := do
  (← get).grammar.productions.forM convertProduction

end Conversion

namespace Transform

/-- Replaces the start symbol if it stands in some rule. The new label is drawn
unless one is given; an empty label counts as none. -/
def isolateStart (newStart : Option String) : Transform Unit := do
  if (← get).startIsMentioned then
    match newStart.filter (!·.isEmpty) with
    | some label => replaceStart label
    | none => replaceStart (← freshLabel)

/-- Brings the grammar into normal form. -/
def toNormalForm (newStart : Option String) (limit : Int) : Transform Unit := do
  isolateStart newStart
  simplify limit
  Conversion.convertAll.toTransform

end Transform

end ContextFree
