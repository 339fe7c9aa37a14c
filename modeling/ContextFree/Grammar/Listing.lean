import ContextFree.Grammar.Basic
import ContextFree.Text.Quoted

/-!
# Listings of a grammar

The three forms in which a grammar is shown: a text with one line per variable,
a table of labels, and a one-line summary of a variable. None of them shows the
kind of a symbol; a reader recovers it from the convention on capitals.
-/

namespace ContextFree.Grammar

/-- The alternatives of a variable on one line. -/
def alternatives (rules : OrderedSet Rhs) : String :=
  " | ".intercalate (rules.toList.map Rhs.text)

/-- The text of a grammar: a line for every variable, each ended by a line feed. -/
def render (g : Grammar) : String :=
  String.join (g.rules.entries.map fun (label, rules) =>
    label ++ " -> " ++ alternatives rules ++ "\n")

/-- The table of a grammar: for every variable the labels of its rules. -/
def table (g : Grammar) : List (String × List (List String)) :=
  g.rules.entries.map fun (label, rules) => (label, rules.toList.map Rhs.labels)

/-- A variable and its rules on one line, both quoted. -/
def summary (label : String) (rules : OrderedSet Rhs) : String :=
  "NonTerminal(" ++ Text.quote label ++ ", [" ++
    ", ".intercalate (rules.toList.map fun rhs => Text.quote rhs.text) ++ "])"

end ContextFree.Grammar
