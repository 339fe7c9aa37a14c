import ContextFree.OrderedMap
import ContextFree.OrderedSet
import ContextFree.Symbol
import Std.Data.TreeSet

/-!
# Grammars

A grammar registers its symbols: a set of terminals and, for every variable, the
set of its rules, all in the order in which they came. That a variable owns a
rule twice, or is registered twice, cannot be expressed. A rule may mention a
variable that is not registered; such a variable has no rules.

Two more things are remembered. `initialStart` is the start symbol the grammar
was made with, whatever became the start since. `acceptsEmpty` is set when empty
rules are taken out of a grammar that derives the empty word, so that the word
is not lost with them.
-/

namespace ContextFree

/-- A context-free grammar. -/
structure Grammar where
  /-- The label of the start symbol. -/
  start : String
  /-- The label the grammar was first given as its start symbol. -/
  initialStart : String
  /-- Whether fresh labels are single letters only. -/
  bounded : Bool
  /-- Whether the empty word belongs to the language beside what the rules derive. -/
  acceptsEmpty : Bool
  /-- The terminals. -/
  terminals : OrderedSet String
  /-- The variables, each with its rules. -/
  rules : OrderedMap String (OrderedSet Rhs)
  deriving DecidableEq

namespace Grammar

/-- The grammar without symbols. -/
def blank (start : String) (bounded : Bool) : Grammar :=
  ⟨start, start, bounded, false, .empty, .empty⟩

instance : Inhabited Grammar := ⟨blank "S" false⟩

/-- The labels of the variables, in order. -/
def variableLabels (g : Grammar) : List String := g.rules.keys

/-- Whether a variable is registered. -/
def hasVariable (g : Grammar) (label : String) : Bool := g.rules.contains label

/-- The rules of a variable; none if it is not registered. -/
def ruleSet (g : Grammar) (label : String) : OrderedSet Rhs :=
  (g.rules.get? label).getD .empty

/-- The rules of a variable, in order. -/
def rulesOf (g : Grammar) (label : String) : List Rhs := (g.ruleSet label).toList

/-- All rules with their owners, in the order of the listing. -/
def productions (g : Grammar) : List Production :=
  g.rules.entries.flatMap fun (label, rules) => rules.toList.map (⟨label, ·⟩)

/-- The rules that mention a variable. -/
def mentioning (g : Grammar) (label : String) : List Production :=
  g.productions.filter (·.rhs.mentions label)

/-- The rules that are single nonterminals, each as its owner and that nonterminal. -/
def units (g : Grammar) : List (String × String) :=
  g.productions.filterMap fun p => p.rhs.unit?.map (p.lhs, ·)

/-- Whether every rule has the form of Chomsky's normal form. -/
def isNormal (g : Grammar) : Bool := g.productions.all (·.rhs.isNormal)

/-- Whether the start symbol occurs in some rule. -/
def startIsMentioned (g : Grammar) : Bool := g.productions.any (·.rhs.mentions g.start)

/-- Registers a terminal. -/
def addTerminal (g : Grammar) (label : String) : Grammar :=
  { g with terminals := g.terminals.insert label }

/-- Registers a variable, without rules if it is new. -/
def addVariable (g : Grammar) (label : String) : Grammar :=
  { g with rules := g.rules.insertNew label .empty }

/-- Registers a symbol under its kind. -/
def addSymbol (g : Grammar) : Symbol → Grammar
  | .terminal a => g.addTerminal a
  | .nonterminal a => g.addVariable a

/-- Changes the rules of one variable, if it is registered, and nothing else. -/
def modifyRules (g : Grammar) (label : String) (f : OrderedSet Rhs → OrderedSet Rhs) : Grammar :=
  { g with rules := g.rules.modify label f }

/-- Gives a rule to a variable, without registering the symbols of the rule. -/
def addRule (g : Grammar) (label : String) (rhs : Rhs) : Grammar :=
  g.modifyRules label (·.insert rhs)

/-- The symbols of a right-hand side that is written as labels; labels that stand
for the empty word disappear. -/
def symbolsOfLabels (labels : List String) : Rhs :=
  (labels.filter fun a => !emptyMarks.contains a).map .ofLabel

/-- Gives a variable a rule written as labels, and registers all its symbols. -/
def loadAlternative (label : String) (g : Grammar) (labels : List String) : Grammar :=
  let rhs := symbolsOfLabels labels
  (rhs.foldl addSymbol g).addRule label rhs

/-- Registers a variable and gives it rules written as labels. -/
def load (g : Grammar) (label : String) (alternatives : List (List String)) : Grammar :=
  alternatives.foldl (loadAlternative label) (g.addVariable label)

/-- Takes a variable out, with its rules and with every rule that mentions it. -/
def removeVariable (g : Grammar) (label : String) : Grammar :=
  let kept := g.rules.mapValues fun _ rules => rules.filter fun rhs => !rhs.mentions label
  { g with rules := kept.erase label }

/-- Keeps the terminals that some rule uses. -/
def dropUnusedTerminals (g : Grammar) : Grammar :=
  let used : Std.TreeSet String := .ofList (g.productions.flatMap (·.rhs.terminals))
  { g with terminals := g.terminals.filter used.contains }

@[simp]
theorem variableLabels_addTerminal (g : Grammar) (a : String) :
    (g.addTerminal a).variableLabels = g.variableLabels := rfl

@[simp]
theorem variableLabels_modifyRules (g : Grammar) (a : String) (f : OrderedSet Rhs → OrderedSet Rhs) :
    (g.modifyRules a f).variableLabels = g.variableLabels :=
  OrderedMap.keys_modify ..

end Grammar

end ContextFree
