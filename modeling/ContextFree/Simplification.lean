import ContextFree.EmptyWord
import ContextFree.UnitRules
import ContextFree.UsefulSymbols

/-!
# Simplifying a grammar

Empty rules go first, because taking them out can leave single-nonterminal rules
behind; those go next, because taking them out can leave variables unreachable;
useless symbols go last. In this order no step brings back what an earlier one
took out.
-/

namespace ContextFree

/-- Takes the empty rules out. -/
def Transform.removeEmptyRules : Transform Unit := modify Grammar.removeEmptyRules

/-- Takes out empty rules, single-nonterminal rules and useless symbols. -/
def Transform.simplify (limit : Int) : Transform Unit := do
  removeEmptyRules
  removeUnits limit
  removeUseless

end ContextFree
