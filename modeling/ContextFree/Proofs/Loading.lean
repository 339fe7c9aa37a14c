import ContextFree.Proofs.WellFormed

/-!
# What loading makes of rules

Loading is a fold over the lines or entries of a source, and it registers the symbols of a
rule before the rule itself. What comes out can be said without any order of the variables.
The rules of a variable are the alternatives behind its label, one after the other, each at
its first occurrence. The symbols are those that stand in the source. Nothing else of the
grammar changes.

All that readers rely on follows from these three laws.
-/

namespace ContextFree.Grammar

variable {g : Grammar} {a label : String} {labels : List String}
  {alternatives : List (List String)} {rules : List (String × List (List String))} {rhs r : Rhs}
  {s t : Symbol}

/-! ## Symbols -/

@[simp]
theorem registers_addSymbol : (g.addSymbol s).Registers t ↔ g.Registers t ∨ t = s := by
  cases s <;> cases t <;>
    simp [addSymbol, Registers, addTerminal, variableLabels, addVariable,
      OrderedMap.mem_keys_insertNew]

@[simp]
theorem ruleSet_addSymbol (g : Grammar) (s : Symbol) (a : String) :
    (g.addSymbol s).ruleSet a = g.ruleSet a := by
  cases s with
  | terminal t => rfl
  | nonterminal b => exact ruleSet_addVariable ..

theorem registers_foldl_addSymbol :
    (rhs.foldl addSymbol g).Registers t ↔ g.Registers t ∨ t ∈ rhs := by
  induction rhs generalizing g with
  | nil => simp
  | cons s rhs ih => rw [List.foldl_cons, ih, registers_addSymbol, List.mem_cons, or_assoc]

theorem ruleSet_foldl_addSymbol (rhs : Rhs) (g : Grammar) (a : String) :
    (rhs.foldl addSymbol g).ruleSet a = g.ruleSet a := by
  induction rhs generalizing g with
  | nil => rfl
  | cons s rhs ih => rw [List.foldl_cons, ih, ruleSet_addSymbol]

/-! ## One variable -/

theorem registers_loadAlternative :
    (g.loadAlternative label labels).Registers s ↔ g.Registers s ∨ s ∈ symbolsOfLabels labels := by
  rw [← registers_foldl_addSymbol]
  cases s with
  | terminal t => exact Iff.rfl
  | nonterminal a =>
      show a ∈ (Grammar.modifyRules _ label _).variableLabels ↔ _
      rw [variableLabels_modifyRules]
      exact Iff.rfl

theorem ruleSet_loadAlternative (h : label ∈ g.variableLabels) :
    (g.loadAlternative label labels).ruleSet a =
      if a = label then (g.ruleSet a).insert (symbolsOfLabels labels) else g.ruleSet a := by
  have hmem : label ∈ ((symbolsOfLabels labels).foldl addSymbol g).variableLabels :=
    (registers_foldl_addSymbol (t := .nonterminal label)).2 (Or.inl h)
  rw [loadAlternative, addRule, ruleSet_modifyRules, ruleSet_foldl_addSymbol,
    ruleSet_foldl_addSymbol]
  by_cases e : a = label <;> simp [e, hmem]

theorem registers_load :
    (g.load label alternatives).Registers s ↔ g.Registers s ∨ s = .nonterminal label ∨
      ∃ labels ∈ alternatives, s ∈ symbolsOfLabels labels := by
  have hfold : ∀ {h : Grammar}, (alternatives.foldl (loadAlternative label) h).Registers s ↔
      h.Registers s ∨ ∃ labels ∈ alternatives, s ∈ symbolsOfLabels labels := by
    induction alternatives with
    | nil => simp
    | cons labels alternatives ih =>
        intro h
        rw [List.foldl_cons, ih, registers_loadAlternative, List.exists_mem_cons_iff, or_assoc]
  rw [load, hfold, show g.addVariable label = g.addSymbol (.nonterminal label) from rfl,
    registers_addSymbol, or_assoc]

theorem ruleSet_load :
    (g.load label alternatives).ruleSet a =
      if a = label then (g.ruleSet a).insertAll (alternatives.map symbolsOfLabels)
      else g.ruleSet a := by
  have hfold : ∀ {h : Grammar}, label ∈ h.variableLabels →
      (alternatives.foldl (loadAlternative label) h).ruleSet a =
        if a = label then (h.ruleSet a).insertAll (alternatives.map symbolsOfLabels)
        else h.ruleSet a := by
    induction alternatives with
    | nil => intro h _; simp [OrderedSet.insertAll]
    | cons labels alternatives ih =>
        intro h hlabel
        rw [List.foldl_cons, ih ((registers_loadAlternative (s := .nonterminal label)).2
          (Or.inl hlabel)), ruleSet_loadAlternative hlabel]
        by_cases e : a = label <;> simp [e, OrderedSet.insertAll]
  rw [load, hfold (mem_variableLabels_addVariable.2 (Or.inr rfl)), ruleSet_addVariable]

/-! ## A source -/

/-- The symbols that are registered are those of the source. -/
theorem registers_loadAll : (rules.foldl (fun g r => g.load r.1 r.2) g).Registers s ↔
    g.Registers s ∨ ∃ r ∈ rules, s = .nonterminal r.1 ∨
      ∃ labels ∈ r.2, s ∈ symbolsOfLabels labels := by
  induction rules generalizing g with
  | nil => simp
  | cons r rules ih => rw [List.foldl_cons, ih, registers_load, List.exists_mem_cons_iff, or_assoc]

/-- The rules of a variable are the alternatives behind its label. -/
theorem ruleSet_loadAll (rules : List (String × List (List String))) (g : Grammar) (a : String) :
    (rules.foldl (fun g r => g.load r.1 r.2) g).ruleSet a = (g.ruleSet a).insertAll
      ((rules.filter (·.1 = a)).flatMap fun r => r.2.map symbolsOfLabels) := by
  induction rules generalizing g with
  | nil => rfl
  | cons r rules ih =>
      rw [List.foldl_cons, ih, ruleSet_load]
      by_cases e : a = r.1
      · rw [if_pos e, List.filter_cons_of_pos (by simp [e]), List.flatMap_cons,
          OrderedSet.insertAll_append]
      · rw [if_neg e, List.filter_cons_of_neg (by simp [Ne.symm e])]

theorem mem_rulesOf_loadAll : rhs ∈ (rules.foldl (fun g r => g.load r.1 r.2) g).rulesOf a ↔
    rhs ∈ g.rulesOf a ∨ ∃ r ∈ rules, r.1 = a ∧ ∃ labels ∈ r.2, symbolsOfLabels labels = rhs := by
  rw [rulesOf, ruleSet_loadAll, OrderedSet.mem_toList, OrderedSet.mem_insertAll]
  simp only [List.mem_flatMap, List.mem_filter, decide_eq_true_eq, List.mem_map, and_assoc]
  exact Iff.rfl

/-- The second grammar has other symbols and rules at most. -/
def SameSettings (g h : Grammar) : Prop :=
  ∃ terminals table, h = { g with terminals := terminals, rules := table }

/-- Nothing but symbols and rules is loaded. -/
theorem sameSettings_loadAll (rules : List (String × List (List String))) (g : Grammar) :
    g.SameSettings (rules.foldl (fun g r => g.load r.1 r.2) g) := by
  have hsymbols : ∀ (rhs : Rhs) {h : Grammar}, g.SameSettings h →
      g.SameSettings (rhs.foldl addSymbol h) := by
    intro rhs h hg
    refine List.foldlRecOn rhs _ hg ?_
    rintro _ ⟨_, _, rfl⟩ s -
    cases s <;> exact ⟨_, _, rfl⟩
  have halternative : ∀ label labels {h : Grammar}, g.SameSettings h →
      g.SameSettings (h.loadAlternative label labels) := by
    intro label labels h hg
    obtain ⟨_, _, e⟩ := hsymbols (symbolsOfLabels labels) hg
    rw [loadAlternative, e]
    exact ⟨_, _, rfl⟩
  refine List.foldlRecOn rules _ ⟨_, _, rfl⟩ fun h hg r _ => ?_
  refine List.foldlRecOn r.2 _ ?_ fun h hg labels _ => halternative r.1 labels hg
  exact hsymbols [.nonterminal r.1] hg

end ContextFree.Grammar
