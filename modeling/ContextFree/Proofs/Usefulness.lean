import ContextFree.Proofs.Rewriting
import ContextFree.Proofs.UsefulSymbols

/-!
# What derivations of words need

A rule is useful if some derivation of a word from the start symbol applies it, and a
variable is if it occurs in such a derivation. Taking out the useless symbols leaves
exactly what is useful, in the order it had.

A variable that derives a word and can be reached is not yet useful, because the only
way to it may lead through a rule that also mentions a variable without words. That is
why reachability is asked of the grammar from which the rules without words are gone.
There a way from the start symbol is the spine of a derivation: whatever stands beside
it derives a word, so the derivation can be completed. Conversely all rules of a
derivation of a word are still there, since each of them derives a part of the word.

Terminals are kept if a rule that is left uses them. A rule may use a terminal that the
grammar does not list, and taking out the useless symbols does not list it either.
-/

namespace ContextFree

namespace Grammar

variable {g : Grammar} {a t : String} {r s : Rhs} {w : Word} {p : Production}

/-- Some derivation of a word from the start symbol applies the rule. -/
def Applied (g : Grammar) (p : Production) : Prop :=
  p.rhs ∈ g.rulesOf p.lhs ∧ ∃ (pre post : Rhs) (w : Word),
    Becomes g [.nonterminal g.start] (pre ++ [.nonterminal p.lhs] ++ post) ∧
      Becomes g (pre ++ p.rhs ++ post) (w.map .terminal)

/-- The variable occurs in some derivation of a word from the start symbol. -/
def Occurs (g : Grammar) (a : String) : Prop :=
  ∃ (r : Rhs) (w : Word), .nonterminal a ∈ r ∧ Becomes g [.nonterminal g.start] r ∧
    Becomes g r (w.map .terminal)

/-! ## Ways from the start symbol and derivations -/

/-- What stands beside a way through rules that derive words derives words. -/
theorem exists_context_of_reaches (hc : g.Closed)
    (h : (g.keepVariables g.terminating).Reaches g.start a) :
    ∃ pre post, Becomes g [.nonterminal g.start] (pre ++ [.nonterminal a] ++ post) ∧
      (∃ u, Derives g pre u) ∧ ∃ v, Derives g post v := by
  induction h with
  | refl => exact ⟨[], [], .refl, ⟨[], .nil⟩, [], .nil⟩
  | step _ hr hb ih =>
      obtain ⟨pre, post, hbec, ⟨u, du⟩, v, dv⟩ := ih
      obtain ⟨hr, w, d⟩ := (mem_rulesOf_keepTerminating hc).1 hr
      -- the rule splits at the next variable of the way
      obtain ⟨l, m, rfl⟩ := List.append_of_mem hb
      obtain ⟨_, _, rfl, dl, d⟩ := derives_append_iff.1 d
      obtain ⟨_, _, rfl, -, dm⟩ := derives_nonterminal_cons_iff.1 d
      refine ⟨pre ++ l, m ++ post, hbec.trans (.step hr ?_), ⟨_, du.append dl⟩, _, dm.append dv⟩
      simpa only [List.append_assoc, List.cons_append, List.nil_append] using Becomes.refl

/-- The way to a variable in a derivation of a word goes through rules that derive words. -/
theorem exists_reaches_of_becomes (hc : g.Closed) (h : Becomes g r s) (d : Derives g s w)
    (ha : .nonterminal a ∈ s) :
    ∃ b, .nonterminal b ∈ r ∧ (g.keepVariables g.terminating).Reaches b a := by
  induction h with
  | refl => exact ⟨a, ha, .refl⟩
  | @step pre post rhs s label hr hbec ih =>
      obtain ⟨b, hb, hba⟩ := ih d ha
      obtain ⟨_, _, rfl, du, -⟩ := derives_append_iff.1 (hbec.derives d)
      obtain ⟨_, u, rfl, -, du⟩ := derives_append_iff.1 du
      have hrule : rhs ∈ (g.keepVariables g.terminating).rulesOf label :=
        (mem_rulesOf_keepTerminating hc).2 ⟨hr, u, du⟩
      simp only [List.mem_append] at hb ⊢
      rcases hb with (hb | hb) | hb
      · exact ⟨b, Or.inl (Or.inl hb), hba⟩
      · exact ⟨label, Or.inl (Or.inr List.mem_cons_self), (Reaches.refl.step hrule hb).trans hba⟩
      · exact ⟨b, Or.inr hb, hba⟩

theorem reaches_of_becomes (hc : g.Closed) (h : Becomes g [.nonterminal g.start] r)
    (d : Derives g r w) (ha : .nonterminal a ∈ r) :
    (g.keepVariables g.terminating).Reaches g.start a := by
  obtain ⟨b, hb, hba⟩ := exists_reaches_of_becomes hc h d ha
  have e : b = g.start := by injection List.mem_singleton.1 hb
  exact e ▸ hba

/-! ## The useful part -/

theorem applied_iff (hc : g.Closed) : g.Applied p ↔ p.rhs ∈ g.usefulPart.rulesOf p.lhs := by
  rw [mem_rulesOf_usefulPart hc, mem_rulesOf_keepTerminating hc]
  refine ⟨fun h => ?_, fun h => ?_⟩
  · obtain ⟨hr, pre, post, w, hbec, hend⟩ := h
    obtain ⟨_, v, rfl, du, dv⟩ := derives_append_iff.1 (derives_iff_becomes.2 hend)
    obtain ⟨u, w, rfl, du, d⟩ := derives_append_iff.1 du
    have dlhs := derives_variable_iff.2 ⟨p.rhs, hr, d⟩
    refine ⟨⟨hr, w, d⟩, reaches_of_becomes hc hbec ((du.append dlhs).append dv) ?_⟩
    simp
  · obtain ⟨⟨hr, w, d⟩, hreach⟩ := h
    obtain ⟨pre, post, hbec, ⟨u, du⟩, v, dv⟩ := exists_context_of_reaches hc hreach
    exact ⟨hr, pre, post, _, hbec, derives_iff_becomes.1 ((du.append d).append dv)⟩

theorem occurs_iff (hc : g.Closed) : g.Occurs a ↔ a ∈ g.usefulPart.variableLabels := by
  rw [mem_variableLabels_usefulPart hc]
  refine ⟨fun h => ?_, fun h => ?_⟩
  · obtain ⟨r, w, ha, hbec, hend⟩ := h
    have d := derives_iff_becomes.2 hend
    obtain ⟨u, du⟩ := d.exists_of_mem ha
    obtain ⟨_, hr, -⟩ := derives_variable_iff.1 du
    exact ⟨⟨mem_variableLabels_of_mem hr, u, du⟩, reaches_of_becomes hc hbec d ha⟩
  · obtain ⟨⟨-, w, d⟩, hreach⟩ := h
    obtain ⟨pre, post, hbec, ⟨u, du⟩, v, dv⟩ := exists_context_of_reaches hc hreach
    refine ⟨_, _, ?_, hbec, derives_iff_becomes.1 ((du.append d).append dv)⟩
    simp

theorem productions_usefulPart_sublist (g : Grammar) :
    g.usefulPart.productions.Sublist g.productions :=
  (productions_foldl_removeVariable_sublist ..).trans
    (productions_foldl_removeVariable_sublist ..)

theorem variableLabels_usefulPart_sublist (g : Grammar) :
    g.usefulPart.variableLabels.Sublist g.variableLabels := by
  show ((g.keepVariables g.terminating).keepVariables _).variableLabels.Sublist _
  rw [variableLabels_keepVariables, variableLabels_keepVariables]
  exact List.filter_sublist.trans List.filter_sublist

theorem mem_terminals_usefulPart :
    t ∈ g.usefulPart.terminals ↔ t ∈ g.terminals ∧ g.usefulPart.Uses (.terminal t) := by
  refine mem_terminals_dropUnusedTerminals.trans ?_
  rw [keepVariables_terminals, keepVariables_terminals]
  exact Iff.rfl

theorem terminals_usefulPart_sublist (g : Grammar) :
    g.usefulPart.terminals.toList.Sublist g.terminals.toList := by
  show (List.filter _ _).Sublist _
  rw [keepVariables_terminals, keepVariables_terminals]
  exact List.filter_sublist

theorem usefulPart_eq (g : Grammar) : g.usefulPart =
    { g with terminals := g.usefulPart.terminals, rules := g.usefulPart.rules } := by
  have hstep : ∀ {h k : Grammar}, k = { h with rules := k.rules } →
      { k with terminals := g.usefulPart.terminals, rules := g.usefulPart.rules } =
        { h with terminals := g.usefulPart.terminals, rules := g.usefulPart.rules } := by
    intro h k e
    rw [e]
  exact (hstep (keepVariables_eq (g.keepVariables g.terminating) _)).trans
    (hstep (keepVariables_eq ..))

/-- A rule that mentions a variable without words is the only way to `A`, no way leads to
`D`, and `C` derives the empty word. -/
def wasteful : Grammar :=
  { blank "S" false with
    terminals := ⟨["d", "a", "b", "c"], by decide⟩
    rules := ⟨[("A", ⟨[[.terminal "a"]], by decide⟩),
      ("S", ⟨[[.nonterminal "A", .nonterminal "B"], [.terminal "a", .nonterminal "C"],
        [.terminal "b"]], by decide⟩),
      ("B", ⟨[[.terminal "b", .nonterminal "B"]], by decide⟩),
      ("D", ⟨[[.terminal "d", .nonterminal "C"]], by decide⟩),
      ("C", ⟨[[], [.terminal "c", .nonterminal "C"]], by decide⟩)], by decide⟩ }

/-- The one rule uses a terminal that is not listed. -/
def unlisted : Grammar := ((blank "S" false).addVariable "S").addRule "S" [.terminal "a"]

end Grammar

namespace Transform

/-- Taking out the useless symbols stops for want of words only, and then changes
nothing. Otherwise it leaves the useful rules and variables and, of the terminals, those
that a rule which is left uses, all in their order. -/
theorem removeUseless_useful {g : Grammar} (hc : g.Closed) :
    (removeUseless.run g = .error (.emptyLanguage g.start) g ↔ ∀ w, ¬ g.Generates w) ∧
      ((∃ w, g.Generates w) → ∃ g', removeUseless.run g = .ok () g' ∧
        (∀ p, p ∈ g'.productions ↔ g.Applied p) ∧ g'.productions.Sublist g.productions ∧
        (∀ a, a ∈ g'.variableLabels ↔ g.Occurs a) ∧
        g'.variableLabels.Sublist g.variableLabels ∧
        (∀ t, t ∈ g'.terminals ↔ t ∈ g.terminals ∧ g'.Uses (.terminal t)) ∧
        g'.terminals.toList.Sublist g.terminals.toList ∧
        g' = { g with terminals := g'.terminals, rules := g'.rules }) := by
  have hwords : g.terminating.contains g.start = true ↔ ∃ w, g.Generates w :=
    Grammar.terminating_iff
  rw [Grammar.removeUseless_run]
  refine ⟨⟨fun hrun w hw => ?_, fun hnone => ?_⟩, fun hsome => ?_⟩
  · rw [if_pos (hwords.2 ⟨w, hw⟩)] at hrun
    cases hrun
  · exact if_neg fun h => (hwords.1 h).elim hnone
  · rw [if_pos (hwords.2 hsome)]
    refine ⟨g.usefulPart, rfl, fun p => ?_, g.productions_usefulPart_sublist, fun a => ?_,
      g.variableLabels_usefulPart_sublist, fun t => Grammar.mem_terminals_usefulPart,
      g.terminals_usefulPart_sublist, g.usefulPart_eq⟩
    · exact Grammar.mem_productions.trans (Grammar.applied_iff hc).symm
    · exact (Grammar.occurs_iff hc).symm

theorem removeUseless_wasteful :
    Grammar.wasteful.Closed ∧ Grammar.wasteful.Generates ["b"] ∧
      ∃ g', removeUseless.run Grammar.wasteful = .ok () g' ∧
        (∀ p, p ∈ g'.productions ↔ Grammar.wasteful.Applied p) ∧
        g'.productions.Sublist Grammar.wasteful.productions ∧
        (∀ a, a ∈ g'.variableLabels ↔ Grammar.wasteful.Occurs a) ∧
        g'.variableLabels.Sublist Grammar.wasteful.variableLabels ∧
        (∀ t, t ∈ g'.terminals ↔ t ∈ Grammar.wasteful.terminals ∧ g'.Uses (.terminal t)) ∧
        g'.terminals.toList.Sublist Grammar.wasteful.terminals.toList ∧
        g' = { Grammar.wasteful with terminals := g'.terminals, rules := g'.rules } := by
  have hc : Grammar.wasteful.Closed := by decide
  have hb : Grammar.wasteful.Generates ["b"] :=
    derives_variable_iff.2 ⟨[.terminal "b"], by decide, .terminal .nil⟩
  exact ⟨hc, hb, (removeUseless_useful hc).2 ⟨_, hb⟩⟩

example : Grammar.wasteful.usefulPart.productions =
    [⟨"S", [.terminal "a", .nonterminal "C"]⟩, ⟨"S", [.terminal "b"]⟩, ⟨"C", []⟩,
      ⟨"C", [.terminal "c", .nonterminal "C"]⟩] := by
  decide +kernel

/-- A terminal of a rule that is left is not listed if it was not listed before. -/
theorem removeUseless_unlisted :
    Grammar.unlisted.Closed ∧ Grammar.unlisted.Generates ["a"] ∧
      ∃ g', removeUseless.run Grammar.unlisted = .ok () g' ∧
        ⟨"S", [.terminal "a"]⟩ ∈ g'.productions ∧
        ¬ ∀ t, t ∈ g'.terminals ↔ g'.Uses (.terminal t) := by
  refine ⟨by decide, ?_, Grammar.unlisted.usefulPart, rfl, by decide +kernel, ?_⟩
  · exact derives_variable_iff.2 ⟨[.terminal "a"], by decide, .terminal .nil⟩
  · intro h
    have huse : Grammar.unlisted.usefulPart.Uses (.terminal "a") :=
      ⟨"S", [.terminal "a"], by decide +kernel, List.mem_cons_self⟩
    exact absurd ((h "a").2 huse) (by decide +kernel)

end Transform

end ContextFree
