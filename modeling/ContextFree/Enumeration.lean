import ContextFree.Grammar.Basic
import Std.Data.HashMap
import Std.Data.HashSet

/-!
# Enumerating the short words of a language

The words of bounded length that each variable derives are the least sets that
are closed under the rules. They are grown in passes. A pass goes through the rules
in order and adds to the words of a variable what each of its rules gives with the
words known by then. The words known after `k` passes include all with a derivation
tree of height at most `k`, and any grammar may be enumerated, with empty rules and
cycles of any kind.

A right-hand side is gone through from the left, and what is too long already is
dropped at every symbol: where it begins with a variable that has no words yet, or
with more terminals than a word may have, nothing after that is looked at.

The passes end when one adds nothing. That happens within one more pass than the
limit on the length, times the number of variables: on a path of a smallest
derivation tree no variable derives the same word twice.
-/

namespace ContextFree

/-- A finite set of words. -/
abbrev WordSet := Std.HashSet Word

/-- The words known so far, for every variable that has some. -/
abbrev WordTable := Std.HashMap String WordSet

/-- The words known for a variable. -/
def WordTable.wordsOf (table : WordTable) (label : String) : WordSet := table.getD label ∅

/-- The words known for a symbol; a terminal is its one word. -/
def WordTable.wordsOfSymbol (table : WordTable) : Symbol → WordSet
  | .terminal a => .ofList [[a]]
  | .nonterminal a => table.wordsOf a

/-- The concatenations that do not exceed the limit. -/
def concatenate (limit : Int) (us vs : WordSet) : WordSet :=
  us.fold (fun found u =>
    let room := limit - u.length
    vs.fold (fun found v => if v.length ≤ room then found.insert (u ++ v) else found) found) ∅

/-- The words a right-hand side gives with the words known so far. -/
def WordTable.expand (limit : Int) (table : WordTable) (rhs : Rhs) : WordSet :=
  rhs.foldl (fun found s => concatenate limit found (table.wordsOfSymbol s)) (.ofList [[]])

/-- Adds words to those known for a variable. -/
def WordTable.grow (table : WordTable) (label : String) (found : List Word) : WordTable :=
  table.alter label fun known => some ((known.getD ∅).insertMany found)

/-- Adds what one rule gives, and says whether it gave anything new. -/
def WordTable.growBy (limit : Int) (table : WordTable) (p : Production) : WordTable × Bool :=
  let known := table.wordsOf p.lhs
  let found := (table.expand limit p.rhs).toList.filter fun w => !known.contains w
  if found.isEmpty then (table, false) else (table.grow p.lhs found, true)

namespace Grammar

/-- One pass over all rules, and whether it added anything. -/
def wordPass (g : Grammar) (limit : Int) (table : WordTable) : WordTable × Bool :=
  g.productions.foldl (fun (table, grew) p =>
    let (table, grows) := table.growBy limit p
    (table, grew || grows)) (table, false)

/-- Repeats passes until one adds nothing, and at most the given number. -/
def wordPasses (g : Grammar) (limit : Int) : Nat → WordTable → WordTable
  | 0, table => table
  | passes + 1, table =>
    let (table, grew) := g.wordPass limit table
    if grew then wordPasses g limit passes table else table

/-- The words of at most the given length that the start symbol derives. A limit
below zero leaves the empty word to the variables that have it as a rule. -/
def wordsUpTo (g : Grammar) (limit : Int) : WordSet :=
  let passes := g.rules.size * ((limit + 1).toNat + 1)
  (g.wordPasses limit passes ∅).wordsOf g.start

/-- The texts of these words, sorted; a text is repeated if several words have it. -/
def textsUpTo (g : Grammar) (limit : Int) (separator : String) : List String :=
  ((g.wordsUpTo limit).toList.map separator.intercalate).mergeSort

/-- Whether the start symbol derives a word, found out by enumeration. -/
def derivesWord (g : Grammar) (w : Word) : Bool := (g.wordsUpTo w.length).contains w

end Grammar

end ContextFree
