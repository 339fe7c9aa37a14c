import ContextFree.Grammar.Basic

/-!
# Recognising a word

Whether a grammar in normal form derives a word is read off a table with an entry
for every substring and every variable. A row of the table belongs to one length;
its cells are the substrings of that length by their offset, and a cell says of
every variable, in the order of the grammar, whether it derives the substring.

A substring of one symbol is derived by the variables with that terminal as a
rule. A longer one is derived by a variable with a rule `B C` when it splits into
a part that `B` derives and a part that `C` derives. Both parts are shorter, so the
rows are filled in the order of their lengths, and each row reads earlier ones.
-/

namespace ContextFree

/-- Why a grammar cannot be used for recognition. -/
inductive RecognitionError where
  /-- A rule is not in normal form. -/
  | notNormal (p : Production)
  /-- A rule mentions a variable that is not registered. -/
  | unregistered (label : String)
  deriving DecidableEq

/-- The wording of an error. -/
def RecognitionError.message : RecognitionError → String
  | .notNormal p => "Production not in CNF: " ++ p.text
  | .unregistered label => "Variable not registered: " ++ label

/-- For every variable whether it derives one and the same substring. -/
abbrev Cell := Array Bool

/-- The cells of the substrings of one length. -/
abbrev Row := Array Cell

/-- The rules of two nonterminals of every variable, with the places of the
nonterminals. -/
abbrev PairRules := List (List (Nat × Nat))

/-- The result of recognition: the table, and whether the word is accepted. The
table is empty for a word that needs none. -/
structure Recognition where
  /-- The rows, shortest length first. -/
  table : Array Row
  /-- Whether the word belongs to the language. -/
  accepted : Bool
  deriving DecidableEq

namespace Grammar

/-- The first thing, in the order of the rules, that keeps a grammar from being
used for recognition. -/
def recognitionError? (g : Grammar) : Option RecognitionError :=
  g.productions.findSome? fun p =>
    if p.rhs.isNormal then
      (p.rhs.nonterminals.find? fun a => !g.hasVariable a).map .unregistered
    else some (.notNormal p)

/-- Whether some variable has a terminal as a rule. -/
def hasLexicalRule (g : Grammar) (a : String) : Bool :=
  g.rules.entries.any fun (_, rules) => rules.toList.contains [.terminal a]

/-- The place of a variable in the order of the grammar. -/
def indexOf (g : Grammar) (label : String) : Nat := g.variableLabels.idxOf label

/-- The rules of two nonterminals, by the places of the nonterminals. -/
def pairRules (g : Grammar) : PairRules :=
  g.rules.entries.map fun (_, rules) => rules.toList.filterMap fun
    | [.nonterminal b, .nonterminal c] => some (g.indexOf b, g.indexOf c)
    | _ => none

/-- The cell of a substring of one symbol. -/
def lexicalCell (g : Grammar) (a : String) : Cell :=
  (g.rules.entries.map fun (_, rules) => rules.toList.contains [.terminal a]).toArray

end Grammar

namespace Recognition

/-- Whether a cell holds for the variable at a place. -/
def holds (cell : Cell) (place : Nat) : Bool := cell.getD place false

/-- The cell of a length and an offset. -/
def cellAt (rows : Array Row) (length offset : Nat) : Cell :=
  (rows.getD (length - 1) #[]).getD offset #[]

/-- The cells of the two parts of a substring, for every place where it can be
split. The rows are those of all shorter lengths. -/
def splits (rows : Array Row) (offset : Nat) : List (Cell × Cell) :=
  (List.range rows.size).map fun i =>
    (cellAt rows (i + 1) offset, cellAt rows (rows.size - i) (offset + i + 1))

/-- The cell of a substring of several symbols. -/
def splitCell (pairs : PairRules) (parts : List (Cell × Cell)) : Cell :=
  (pairs.map fun rules => rules.any fun (b, c) =>
    parts.any fun (left, right) => holds left b && holds right c).toArray

/-- The row after the given ones, for a word of `n` symbols. -/
def nextRow (pairs : PairRules) (n : Nat) (rows : Array Row) : Row :=
  ((List.range (n - rows.size)).map fun offset => splitCell pairs (splits rows offset)).toArray

/-- The first row and the given number of rows after it. -/
def rowsFrom (pairs : PairRules) (first : Row) : Nat → Array Row
  | 0 => #[first]
  | k + 1 =>
    let rows := rowsFrom pairs first k
    rows.push (nextRow pairs first.size rows)

/-- The table of a word that is not empty. -/
def tableOf (g : Grammar) (w : Word) : Array Row :=
  rowsFrom g.pairRules (w.map g.lexicalCell).toArray (w.length - 1)

end Recognition

/-- Recognises a word. The empty word needs no table: a grammar in normal form
remembers whether it belongs to the language. A word with a symbol that no rule
produces needs none either. -/
def Grammar.recognize (g : Grammar) (w : Word) : Except RecognitionError Recognition :=
  match g.recognitionError? with
  | some e => .error e
  | none =>
    if w.isEmpty then .ok ⟨#[], g.acceptsEmpty⟩
    else if w.all g.hasLexicalRule then
      let table := Recognition.tableOf g w
      .ok ⟨table, g.hasVariable g.start &&
        Recognition.holds (Recognition.cellAt table w.length 0) (g.indexOf g.start)⟩
    else .ok ⟨#[], false⟩

end ContextFree
