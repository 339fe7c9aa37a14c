import ContextFree.Grammar.Transform

/-!
# Taking out the single-nonterminal rules

A rule `A -> B` lends `A` what `B` derives. It goes when `A` gets the rules of `B`
instead. The rules are taken out in passes. A pass goes through the rules that
were single nonterminals when it began; the rules it copies may be single
nonterminals themselves, and those wait for the next pass.

Within a pass every step sees the grammar as the steps before it left it. Two
kinds of rule are not copied: one the owner has already, and `B -> A`, which says
nothing new about `A`.
-/

namespace ContextFree

namespace Grammar

/-- Replaces the rule `owner -> target` by the rules of the target. A rule that
is not there, or no more, changes nothing. -/
def inlineUnit (g : Grammar) (owner target : String) : Grammar :=
  if (g.ruleSet owner).toList.contains [.nonterminal target] then
    let copied := (g.rulesOf target).filter (· ≠ [.nonterminal owner])
    g.modifyRules owner fun rules => (rules.insertAll copied).erase [.nonterminal target]
  else g

/-- One pass over the single-nonterminal rules that the grammar has now. -/
def unitPass (g : Grammar) : Grammar :=
  g.units.foldl (fun g (owner, target) => g.inlineUnit owner target) g

end Grammar

namespace Transform

/-- Repeats passes, at most the given number of them, until no rule is a single
nonterminal. -/
def unitPasses : Nat → Transform Bool
  | 0 => return (← get).units.isEmpty
  | passes + 1 => do
    if (← get).units.isEmpty then return true
    modify Grammar.unitPass
    unitPasses passes

/-- Takes the single-nonterminal rules out. If the limit on passes is reached
first, the grammar stays as the last pass left it. -/
def removeUnits (limit : Int) : Transform Unit := do
  if !(← unitPasses limit.toNat) then throw (.unitsRemain limit)

end Transform

end ContextFree
