import ContextFree.Grammar.Basic

/-!
# What a grammar derives

The meaning of a grammar, as two inductive relations between a sequence of
symbols and a word. They are stated on sequences and split the word where the
sequence splits, so a derivation has the shape of its tree and no steps have to be
put in order.

`Derives` is the relation proper. `DerivesWithin` also bounds the height of the
tree, leaves included; every derivation has some height.
-/

namespace ContextFree

/-- A sequence of symbols derives a word: terminals stand for themselves, and a
variable for what one of its rules derives. -/
inductive Derives (g : Grammar) : Rhs → Word → Prop where
  | nil : Derives g [] []
  | terminal {a : String} {rest : Rhs} {w : Word} :
      Derives g rest w → Derives g (.terminal a :: rest) (a :: w)
  | nonterminal {label : String} {rhs rest : Rhs} {u v : Word} :
      rhs ∈ g.rulesOf label → Derives g rhs u → Derives g rest v →
      Derives g (.nonterminal label :: rest) (u ++ v)

/-- A sequence of symbols derives a word by trees of at most the given height,
where a terminal has height one and a variable one more than what it derives
through. -/
inductive DerivesWithin (g : Grammar) : Nat → Rhs → Word → Prop where
  | nil {n : Nat} : DerivesWithin g n [] []
  | terminal {n : Nat} {a : String} {rest : Rhs} {w : Word} :
      DerivesWithin g (n + 1) rest w → DerivesWithin g (n + 1) (.terminal a :: rest) (a :: w)
  | nonterminal {n : Nat} {label : String} {rhs rest : Rhs} {u v : Word} :
      rhs ∈ g.rulesOf label → DerivesWithin g n rhs u → DerivesWithin g (n + 1) rest v →
      DerivesWithin g (n + 1) (.nonterminal label :: rest) (u ++ v)

namespace Grammar

/-- The words that the start symbol derives. -/
def Generates (g : Grammar) (w : Word) : Prop := Derives g [.nonterminal g.start] w

/-- The language of a grammar: what the start symbol derives, and the empty word
if the grammar remembers that it belongs to it. -/
def Accepts (g : Grammar) (w : Word) : Prop :=
  g.Generates w ∨ (w = [] ∧ g.acceptsEmpty = true)

end Grammar

end ContextFree
