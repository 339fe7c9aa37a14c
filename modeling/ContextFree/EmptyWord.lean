import ContextFree.Grammar.Basic
import ContextFree.Saturation

/-!
# Taking out the empty rules

A variable is nullable if it derives the empty word. A grammar loses its empty
rules without losing other words when every rule gets the siblings that leave
nullable variables out.

Siblings are found one deletion at a time, in rounds: the siblings found in one
round are the rules whose siblings are looked for in the next. A deletion makes a
rule shorter, so there are no more rounds than the longest rule has symbols.
-/

namespace ContextFree

namespace Rhs

/-- Whether all symbols are nonterminals with known labels. -/
def consistsOf (known : LabelSet) (rhs : Rhs) : Bool :=
  rhs.all fun
    | .terminal _ => false
    | .nonterminal a => known.contains a

/-- What is left when one occurrence of a nullable variable is deleted, for every
such occurrence in order. -/
def deletions (nullable : LabelSet) : Rhs → List Rhs
  | [] => []
  | .terminal a :: rest => (deletions nullable rest).map (.terminal a :: ·)
  | .nonterminal a :: rest =>
    let inside := (deletions nullable rest).map (.nonterminal a :: ·)
    if nullable.contains a then rest :: inside else inside

/-- The siblings that one deletion gives. A rule of one symbol has none: it would
become an empty rule. -/
def siblings (nullable : LabelSet) (rhs : Rhs) : List Rhs :=
  if rhs.length < 2 then [] else deletions nullable rhs

end Rhs

/-- Adds the siblings of the latest rules, then the siblings of those that were
new, and so on for the given number of rounds. -/
def addSiblings (nullable : LabelSet) : Nat → OrderedSet Rhs → List Rhs → OrderedSet Rhs
  | 0, known, _ => known
  | rounds + 1, known, latest =>
    let found := known.additions (latest.flatMap (Rhs.siblings nullable))
    addSiblings nullable rounds (known.insertAll found) found

/-- The rules of one variable after the empty rule is taken out. -/
def withoutEmpty (nullable : LabelSet) (rules : OrderedSet Rhs) : OrderedSet Rhs :=
  let kept := rules.filter fun rhs => !rhs.isEmpty
  let longest := (kept.toList.map List.length).foldl max 0
  addSiblings nullable longest kept kept.toList

namespace Grammar

/-- The variables that derive the empty word. If the initial start symbol is
set apart, it counts only when it has an empty rule itself. -/
def nullable (g : Grammar) (setStartApart : Bool) : LabelSet :=
  let (empty, others) := g.rules.entries.partition fun e => e.2.toList.contains []
  let candidates := others.filter fun e => !(setStartApart && e.1 == g.initialStart)
  saturate (fun known rules => rules.toList.any (Rhs.consistsOf known)) candidates
    (.ofList (empty.map Prod.fst))

/-- Takes the empty rules out, and remembers whether the empty word is lost with
them. -/
def removeEmptyRules (g : Grammar) : Grammar :=
  let nullable := g.nullable false
  { g with
    acceptsEmpty := g.acceptsEmpty || nullable.contains g.start
    rules := g.rules.mapValues fun _ rules => withoutEmpty nullable rules }

end Grammar

end ContextFree
