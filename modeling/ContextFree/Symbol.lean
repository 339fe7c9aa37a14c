import ContextFree.Text.Uppercase

/-!
# Symbols, words and right-hand sides

A symbol is a label with its kind. The kind is not read off the label: grammars
that were read follow the convention that variables start with a capital, but a
grammar may hold a capital terminal, and every function here goes by the kind.

A right-hand side is a list of symbols, the empty list standing for the empty
word; a word is a list of terminal labels. Labels may have any length.
-/

namespace ContextFree

/-- A terminal or a nonterminal symbol. -/
inductive Symbol where
  | terminal (label : String)
  | nonterminal (label : String)
  deriving DecidableEq, Inhabited

/-- A sequence of terminal labels. -/
abbrev Word := List String

/-- What a rule puts in the place of a variable. -/
abbrev Rhs := List Symbol

/-- The text that stands for the empty word. -/
def emptyMark : String := "λ"

/-- The labels that stand for the empty word where rules are read. -/
def emptyMarks : List String := [emptyMark, "ε"]

/-- Whether a label names a variable: it starts with a capital. -/
def isVariableLabel (label : String) : Bool :=
  match label.toList with
  | [] => false
  | c :: _ => Text.isUppercase c

namespace Symbol

/-- The label without the kind. -/
def label : Symbol → String
  | .terminal a => a
  | .nonterminal a => a

/-- Whether the symbol is a terminal. -/
def isTerminal : Symbol → Bool
  | .terminal _ => true
  | .nonterminal _ => false

/-- The symbol a label stands for by the convention on capitals. -/
def ofLabel (label : String) : Symbol :=
  if isVariableLabel label then .nonterminal label else .terminal label

/-- The label of a terminal. -/
def terminal? : Symbol → Option String
  | .terminal a => some a
  | .nonterminal _ => none

/-- The label of a nonterminal. -/
def nonterminal? : Symbol → Option String
  | .terminal _ => none
  | .nonterminal a => some a

end Symbol

namespace Rhs

/-- The label of a right-hand side that is a single nonterminal. -/
def unit? : Rhs → Option String
  | [.nonterminal a] => some a
  | _ => none

theorem unit?_eq_some_iff {rhs : Rhs} {a : String} :
    rhs.unit? = some a ↔ rhs = [.nonterminal a] := by
  unfold unit?
  split <;> simp_all

/-- Whether the right-hand side has the form Chomsky's normal form asks for: a
single terminal, or exactly two nonterminals. -/
def isNormal : Rhs → Bool
  | [.terminal _] => true
  | [.nonterminal _, .nonterminal _] => true
  | _ => false

theorem isNormal_iff {rhs : Rhs} : rhs.isNormal = true ↔
    (∃ t, rhs = [.terminal t]) ∨ ∃ b c, rhs = [.nonterminal b, .nonterminal c] := by
  unfold isNormal
  split <;> simp_all

/-- The labels of the nonterminals, in order and with repetitions. -/
def nonterminals (rhs : Rhs) : List String := rhs.filterMap Symbol.nonterminal?

/-- The labels of the terminals, in order and with repetitions. -/
def terminals (rhs : Rhs) : List String := rhs.filterMap Symbol.terminal?

@[simp]
theorem mem_nonterminals {rhs : Rhs} {a : String} :
    a ∈ rhs.nonterminals ↔ .nonterminal a ∈ rhs := by
  rw [nonterminals, List.mem_filterMap]
  constructor
  · rintro ⟨s, hs, h⟩
    cases s <;> simp_all [Symbol.nonterminal?]
  · exact fun h => ⟨_, h, rfl⟩

@[simp]
theorem mem_terminals {rhs : Rhs} {a : String} : a ∈ rhs.terminals ↔ .terminal a ∈ rhs := by
  rw [terminals, List.mem_filterMap]
  constructor
  · rintro ⟨s, hs, h⟩
    cases s <;> simp_all [Symbol.terminal?]
  · exact fun h => ⟨_, h, rfl⟩

/-- Whether a nonterminal of the given label occurs. -/
def mentions (rhs : Rhs) (label : String) : Bool := rhs.contains (.nonterminal label)

@[simp]
theorem mentions_iff {rhs : Rhs} {a : String} :
    rhs.mentions a = true ↔ .nonterminal a ∈ rhs := by
  simp [mentions]

/-- The labels as they stand in the symbols; the empty right-hand side is shown
by its mark. -/
def labels (rhs : Rhs) : List String :=
  match rhs with
  | [] => [emptyMark]
  | rhs => rhs.map Symbol.label

/-- The text of a right-hand side. Labels of one character are written together;
one longer label is enough to set all of them apart by spaces. -/
def text (rhs : Rhs) : String :=
  if rhs.isEmpty then emptyMark
  else (if rhs.any (1 < ·.label.length) then " " else "").intercalate (rhs.map Symbol.label)

end Rhs

/-- A rule together with the variable that owns it. -/
structure Production where
  /-- The label of the owner. -/
  lhs : String
  /-- What the rule puts in its place. -/
  rhs : Rhs
  deriving DecidableEq, Inhabited

/-- The text of a rule. -/
def Production.text (p : Production) : String := p.lhs ++ " -> " ++ p.rhs.text

end ContextFree
