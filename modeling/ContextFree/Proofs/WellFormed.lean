import ContextFree.Proofs.Rules

/-!
# Well-formed grammars

A rule may mention symbols that a grammar does not register, and nothing in the
type of grammars forbids it. The grammars that readers make do not, and no
transform brings it about. Both facts are stated through one relation: a grammar
uses a symbol if some rule of it has the symbol. A transform that only rearranges
rules uses no symbol that was not used before, and what is registered then takes
care of itself.
-/

namespace ContextFree.Grammar

/-- Some rule has the symbol. -/
def Uses (g : Grammar) (s : Symbol) : Prop := ∃ a, ∃ rhs ∈ g.rulesOf a, s ∈ rhs

/-- The symbol is registered under its kind. -/
def Registers (g : Grammar) : Symbol → Prop
  | .terminal t => t ∈ g.terminals
  | .nonterminal a => a ∈ g.variableLabels

/-- Every variable that a rule mentions is registered. -/
def Closed (g : Grammar) : Prop := ∀ b, g.Uses (.nonterminal b) → b ∈ g.variableLabels

/-- The start symbol and every symbol of a rule are registered. -/
structure WellFormed (g : Grammar) : Prop where
  start_mem : g.start ∈ g.variableLabels
  closed : g.Closed
  terminal_mem : ∀ t, g.Uses (.terminal t) → t ∈ g.terminals

theorem Uses.intro {g : Grammar} {a : String} {rhs : Rhs} {s : Symbol}
    (hr : rhs ∈ g.rulesOf a) (hs : s ∈ rhs) : g.Uses s :=
  ⟨a, rhs, hr, hs⟩

theorem WellFormed.intro {g : Grammar} (hstart : g.start ∈ g.variableLabels)
    (huses : ∀ s, g.Uses s → g.Registers s) : g.WellFormed :=
  ⟨hstart, fun b hb => huses (.nonterminal b) hb, fun t ht => huses (.terminal t) ht⟩

theorem Closed.mem {g : Grammar} (hc : g.Closed) {a b : String} {rhs : Rhs}
    (hr : rhs ∈ g.rulesOf a) (hb : .nonterminal b ∈ rhs) : b ∈ g.variableLabels :=
  hc b (.intro hr hb)

theorem closed_iff {g : Grammar} :
    g.Closed ↔ ∀ p ∈ g.productions, ∀ b ∈ p.rhs.nonterminals, b ∈ g.variableLabels := by
  refine ⟨fun hc p hp b hb => ?_, fun h b hu => ?_⟩
  · exact hc.mem (mem_productions.1 hp) (Rhs.mem_nonterminals.1 hb)
  · obtain ⟨a, rhs, hr, hb⟩ := hu
    exact h ⟨a, rhs⟩ (mem_productions.2 hr) b (Rhs.mem_nonterminals.2 hb)

instance (g : Grammar) : Decidable g.Closed := decidable_of_iff _ closed_iff.symm

theorem WellFormed.of_uses {g h : Grammar} (hg : g.WellFormed) (hstart : h.start = g.start)
    (hvars : h.variableLabels = g.variableLabels) (hterms : h.terminals = g.terminals)
    (huses : ∀ s, h.Uses s → g.Uses s) : h.WellFormed where
  start_mem := by rw [hstart, hvars]; exact hg.start_mem
  closed := fun b hb => hvars ▸ hg.closed b (huses _ hb)
  terminal_mem := fun t ht => hterms ▸ hg.terminal_mem t (huses _ ht)

end ContextFree.Grammar
