import ContextFree.Proofs.Conversion
import ContextFree.Proofs.Reading
import ContextFree.Proofs.Recognition

/-!
# Simplified and converted grammars are fixed points

A program that cleans up has nothing to do on what is clean. For simplification that
needs an argument per step, because a step does not ask whether it is needed: it
computes what is nullable, what derives words and what can be reached, and builds the
grammar anew. On a simplified grammar each of these sets turns out trivial. Nothing is
nullable, so no rule has siblings and the flag stays what it was; every variable derives
a word and can be reached, so none is taken out. The passes over single nonterminals
find none, and a limit of zero allows that much.

A rule in normal form is neither empty nor a single nonterminal, so a converted grammar
is simplified. Nothing else is left to do on it: no rule mentions its start symbol, which
is why no label for a new one is looked at, and no rule is out of form.

What the programs leave is simplified, or converted, by the theorems on their results.
So they leave exactly their fixed points, order and flag included, and a second run
changes nothing.
-/

namespace ContextFree

variable {nullable known : LabelSet}

/-! ## Nothing is nullable -/

theorem Rhs.deletions_eq_nil (h : ∀ a, nullable.contains a = false) (r : Rhs) :
    deletions nullable r = [] := by
  induction r with
  | nil => rfl
  | cons s r ih => cases s <;> simp [deletions, ih, h]

theorem addSiblings_eq_self (h : ∀ a, nullable.contains a = false) (rounds : Nat)
    (rules : OrderedSet Rhs) (latest : List Rhs) :
    addSiblings nullable rounds rules latest = rules := by
  induction rounds generalizing latest with
  | zero => rfl
  | succ rounds ih =>
      have hnone : latest.flatMap (Rhs.siblings nullable) = [] := by
        refine List.flatMap_eq_nil_iff.2 fun r _ => ?_
        rw [Rhs.siblings, Rhs.deletions_eq_nil h, ite_self]
      rw [addSiblings, hnone]
      exact ih []

theorem withoutEmpty_eq_self {rules : OrderedSet Rhs} (h : ∀ a, nullable.contains a = false)
    (hne : [] ∉ rules) : withoutEmpty nullable rules = rules := by
  have hkept : rules.filter (fun rhs => !rhs.isEmpty) = rules := by
    refine OrderedSet.ext (List.filter_eq_self.2 fun r hr => ?_)
    cases r with
    | nil => exact absurd hr hne
    | cons _ _ => rfl
  rw [withoutEmpty, hkept]
  exact addSiblings_eq_self h _ rules _

namespace Grammar

variable {g : Grammar} {a : String}

theorem removeEmptyRules_eq_self (hne : ∀ a, [] ∉ g.rulesOf a) : g.removeEmptyRules = g := by
  have hnone : ∀ a, (g.nullable false).contains a = false := by
    intro a
    rw [← Bool.not_eq_true, nullable_iff]
    exact not_derives_nil hne a
  have hrules : g.removeEmptyRules.rules = g.rules := by
    refine rules_ext (variableLabels_removeEmptyRules g) fun a => ?_
    by_cases ha : a ∈ g.variableLabels
    · rw [ruleSet_removeEmptyRules ha, withoutEmpty_eq_self hnone (hne a)]
    · rw [ruleSet_of_not_mem ha, ruleSet_of_not_mem (by rwa [variableLabels_removeEmptyRules])]
  have hflag : g.removeEmptyRules.acceptsEmpty = g.acceptsEmpty := by
    show (g.acceptsEmpty || (g.nullable false).contains g.start) = _
    rw [hnone, Bool.or_false]
  calc g.removeEmptyRules
      = { g with acceptsEmpty := g.removeEmptyRules.acceptsEmpty,
                 rules := g.removeEmptyRules.rules } := rfl
    _ = g := by rw [hrules, hflag]

/-! ## Nothing is useless -/

theorem keepVariables_eq_self (h : ∀ a ∈ g.variableLabels, known.contains a = true) :
    g.keepVariables known = g := by
  have hnone : g.variableLabels.filter (fun a => !known.contains a) = [] := by
    refine List.filter_eq_nil_iff.2 fun a ha => ?_
    rw [h a ha]
    decide
  rw [keepVariables, hnone]
  rfl

theorem dropUnusedTerminals_eq_self (h : ∀ t ∈ g.terminals, g.Uses (.terminal t)) :
    g.dropUnusedTerminals = g := by
  have hterminals : g.dropUnusedTerminals.terminals = g.terminals := by
    refine OrderedSet.ext (List.filter_eq_self.2 fun t ht => ?_)
    exact (OrderedSet.mem_filter.1 (mem_terminals_dropUnusedTerminals.2 ⟨ht, h t ht⟩)).2
  calc g.dropUnusedTerminals
      = { g with terminals := g.dropUnusedTerminals.terminals } := rfl
    _ = g := by rw [hterminals]

theorem Trim.terminating_iff (hg : g.Trim) :
    g.terminating.contains a = true ↔ a ∈ g.variableLabels := by
  rw [Grammar.terminating_iff]
  refine ⟨fun h => ?_, hg.derives a⟩
  obtain ⟨w, d⟩ := h
  obtain ⟨r, hr, -⟩ := derives_variable_iff.1 d
  exact mem_variableLabels_of_mem hr

theorem Trim.reachable_iff (hg : g.Trim) :
    g.reachable.contains a = true ↔ a ∈ g.variableLabels := by
  rw [Grammar.reachable_iff hg.wellFormed.closed]
  exact ⟨fun h => h.mem hg.wellFormed.closed hg.wellFormed.start_mem, hg.reaches a⟩

theorem Trim.usefulPart_eq_self (hg : g.Trim) : g.usefulPart = g := by
  have hterminating : g.keepVariables g.terminating = g :=
    keepVariables_eq_self fun a ha => hg.terminating_iff.2 ha
  have hreachable : g.keepVariables g.reachable = g :=
    keepVariables_eq_self fun a ha => hg.reachable_iff.2 ha
  rw [usefulPart, hterminating, hreachable]
  exact dropUnusedTerminals_eq_self hg.uses

end Grammar

namespace Transform

variable {g g' : Grammar}

theorem removeUnits_run_eq_self (limit : Int) (h : ∀ a b, [.nonterminal b] ∉ g.rulesOf a) :
    (removeUnits limit).run g = .ok () g := by
  have hempty := Grammar.units_isEmpty_iff.2 h
  rw [removeUnits_run, Function.iterate_fixed (Grammar.unitPass_of_isEmpty hempty),
    if_pos hempty]

theorem removeUseless_run_eq_self (hg : g.Trim) : removeUseless.run g = .ok () g := by
  rw [Grammar.removeUseless_run, if_pos (hg.terminating_iff.2 hg.wellFormed.start_mem),
    hg.usefulPart_eq_self]

/-! ## Simplification -/

theorem simplify_run_eq_self (limit : Int) (hg : g.Simplified) :
    (simplify limit).run g = .ok () g := by
  have hempty : removeEmptyRules.run g = .ok () g := by
    show EStateM.Result.ok () g.removeEmptyRules = _
    rw [Grammar.removeEmptyRules_eq_self hg.nil_not_mem]
  simp only [simplify, EStateM.run_bind, hempty, removeUnits_run_eq_self limit hg.unit_not_mem,
    removeUseless_run_eq_self hg.trim]

theorem simplified_of_simplify {limit : Int} (hg : g.WellFormed)
    (h : (simplify limit).run g = .ok () g') : g'.Simplified :=
  ((simplify_ends (kept_accepts g.Accepts) limit hg fun _ => Iff.rfl).of_ok h).1

theorem simplify_run_eq_self_iff {limit : Int} (hg : g.WellFormed) :
    (simplify limit).run g = .ok () g ↔ g.Simplified :=
  ⟨simplified_of_simplify hg, simplify_run_eq_self limit⟩

end Transform

namespace Grammar

/-- An empty rule, two single nonterminals that lead to each other, a variable without
words, and rules that mention the start symbol. -/
def cluttered : Grammar :=
  { blank "S" false with
    terminals := ⟨["b", "a", "c"], by decide⟩
    rules := ⟨[("S", ⟨[[.terminal "b", .nonterminal "S", .nonterminal "B"], [.nonterminal "A"]],
        by decide⟩),
      ("B", ⟨[[.terminal "a"], [.nonterminal "C"]], by decide⟩),
      ("A", ⟨[[.nonterminal "S"], []], by decide⟩),
      ("C", ⟨[[.terminal "c", .nonterminal "C"]], by decide⟩)], by decide⟩ }

theorem isRead_cluttered : cluttered.IsRead :=
  .text (show Grammar.ofText .compact false none
    "S -> bSB | A\nA -> S | λ\nB -> a | C\nC -> cC" = .ok _ from rfl)

end Grammar

theorem Transform.exists_simplify_cluttered :
    ∃ g', (simplify 10).run Grammar.cluttered = .ok () g' :=
  ⟨_, rfl⟩

/-- After simplification no rule is empty or a single nonterminal, and what is registered
is what can be reached, what derives words and what rules use. -/
theorem clean_of_simplify {g g' : Grammar} {limit : Int} (hg : g.IsRead)
    (h : (Transform.simplify limit).run g = .ok () g') :
    (∀ p ∈ g'.productions, p.rhs ≠ [] ∧ p.rhs.unit? = none) ∧
      (∀ a, a ∈ g'.variableLabels ↔ g'.reachable.contains a = true) ∧
      (∀ a, a ∈ g'.variableLabels ↔ g'.terminating.contains a = true) ∧
      (∀ p ∈ g'.productions, ∀ a, .nonterminal a ∈ p.rhs → a ∈ g'.variableLabels) ∧
      ∀ t, t ∈ g'.terminals ↔ ∃ p ∈ g'.productions, .terminal t ∈ p.rhs := by
  have hs := Transform.simplified_of_simplify hg.wellFormed h
  refine ⟨fun p hp => ⟨fun hnil => ?_, ?_⟩, fun a => hs.trim.reachable_iff.symm,
    fun a => hs.trim.terminating_iff.symm, fun p hp a ha => ?_, fun t => ⟨fun ht => ?_, ?_⟩⟩
  · exact hs.nil_not_mem p.lhs (hnil ▸ Grammar.mem_productions.1 hp)
  · refine Option.eq_none_iff_forall_ne_some.2 fun b hb => hs.unit_not_mem p.lhs b ?_
    exact Rhs.unit?_eq_some_iff.1 hb ▸ Grammar.mem_productions.1 hp
  · exact hs.trim.wellFormed.closed.mem (Grammar.mem_productions.1 hp) ha
  · obtain ⟨a, rhs, hr, hrt⟩ := hs.trim.uses t ht
    exact ⟨⟨a, rhs⟩, Grammar.mem_productions.2 hr, hrt⟩
  · intro hx
    obtain ⟨p, hp, hpt⟩ := hx
    exact hs.trim.wellFormed.terminal_mem t (.intro (Grammar.mem_productions.1 hp) hpt)

theorem clean_of_cluttered :
    ∃ g', (Transform.simplify 10).run Grammar.cluttered = .ok () g' ∧
      (∀ p ∈ g'.productions, p.rhs ≠ [] ∧ p.rhs.unit? = none) ∧
      (∀ a, a ∈ g'.variableLabels ↔ g'.reachable.contains a = true) ∧
      (∀ a, a ∈ g'.variableLabels ↔ g'.terminating.contains a = true) ∧
      (∀ p ∈ g'.productions, ∀ a, .nonterminal a ∈ p.rhs → a ∈ g'.variableLabels) ∧
      ∀ t, t ∈ g'.terminals ↔ ∃ p ∈ g'.productions, .terminal t ∈ p.rhs := by
  obtain ⟨g', h⟩ := Transform.exists_simplify_cluttered
  exact ⟨g', h, clean_of_simplify Grammar.isRead_cluttered h⟩

example : (finalState ((Transform.simplify 10).run Grammar.cluttered)).productions =
    [⟨"S", [.terminal "b", .nonterminal "S", .nonterminal "B"]⟩,
      ⟨"S", [.terminal "b", .nonterminal "B"]⟩, ⟨"B", [.terminal "a"]⟩] := by
  decide +kernel

/-- A second simplification returns, whatever its limit, and changes nothing. -/
theorem simplify_idempotent {g g' : Grammar} {limit : Int} (hg : g.IsRead)
    (h : (Transform.simplify limit).run g = .ok () g') (limit' : Int) :
    (Transform.simplify limit').run g' = .ok () g' :=
  Transform.simplify_run_eq_self limit' (Transform.simplified_of_simplify hg.wellFormed h)

theorem simplify_idempotent_cluttered :
    ∃ g', (Transform.simplify 10).run Grammar.cluttered = .ok () g' ∧
      (Transform.simplify 0).run g' = .ok () g' := by
  obtain ⟨g', h⟩ := Transform.exists_simplify_cluttered
  exact ⟨g', h, simplify_idempotent Grammar.isRead_cluttered h 0⟩

/-! ## Conversion -/

namespace Conversion

theorem convertProduction_run_eq_self {p : Production} (hp : p.rhs.isNormal = true)
    (w : Workspace) : (convertProduction p).run w = .ok () w := by
  rw [convertProduction, hp]
  rfl

theorem forM_convertProduction_run_eq_self {rest : List Production}
    (h : ∀ p ∈ rest, p.rhs.isNormal = true) (w : Workspace) :
    (rest.forM convertProduction).run w = .ok () w := by
  induction rest with
  | nil => rfl
  | cons p rest ih =>
      rw [List.forM_eq_forM, List.forM_cons, EStateM.run_bind,
        convertProduction_run_eq_self (h p List.mem_cons_self)]
      exact ih fun q hq => h q (List.mem_cons_of_mem _ hq)

theorem convertAll_run_eq_self {g : Grammar} (hn : g.isNormal = true) :
    convertAll.toTransform.run g = .ok () g := by
  have hrun : convertAll.run g.workspace = .ok () g.workspace :=
    forM_convertProduction_run_eq_self (List.all_eq_true.1 hn) g.workspace
  rw [EStateM.run] at hrun ⊢
  rw [toTransform, hrun]
  rfl

end Conversion

theorem Grammar.Converted.simplified {g : Grammar} (hg : g.Converted) : g.Simplified where
  trim := hg.trim
  nil_not_mem := nil_not_mem_of_isNormal hg.isNormal
  unit_not_mem := fun a b hr => by cases Grammar.isNormal_iff.1 hg.isNormal a _ hr

namespace Transform

variable {g g' : Grammar}

theorem isolateStart_run_eq_self (newStart : Option String) (hs : g.StartUnused) :
    (isolateStart newStart).run g = .ok () g := by
  rw [isolateStart, EStateM.run_bind, EStateM.run_get]
  simp only [Grammar.startIsMentioned_eq_false_iff.2 hs]
  rfl

theorem toNormalForm_run_eq_self (newStart : Option String) (limit : Int) (hg : g.Converted) :
    (toNormalForm newStart limit).run g = .ok () g := by
  simp only [toNormalForm, EStateM.run_bind, isolateStart_run_eq_self newStart hg.startUnused,
    simplify_run_eq_self limit hg.simplified, Conversion.convertAll_run_eq_self hg.isNormal]

theorem converted_of_toNormalForm {newStart : Option String} {limit : Int} (hg : g.WellFormed)
    (h : (toNormalForm newStart limit).run g = .ok () g') : g'.Converted :=
  ((toNormalForm_ends newStart limit hg fun _ => Iff.rfl).of_ok h).1

theorem toNormalForm_run_eq_self_iff {newStart : Option String} {limit : Int}
    (hg : g.WellFormed) : (toNormalForm newStart limit).run g = .ok () g ↔ g.Converted :=
  ⟨converted_of_toNormalForm hg, toNormalForm_run_eq_self newStart limit⟩

end Transform

/-- A second conversion returns, whatever its limit and the label it is given for a new
start symbol, and changes nothing. -/
theorem toNormalForm_idempotent {g g' : Grammar} {newStart : Option String} {limit : Int}
    (hg : g.IsRead) (h : (Transform.toNormalForm newStart limit).run g = .ok () g')
    (newStart' : Option String) (limit' : Int) :
    (Transform.toNormalForm newStart' limit').run g' = .ok () g' :=
  Transform.toNormalForm_run_eq_self newStart' limit'
    (Transform.converted_of_toNormalForm hg.wellFormed h)

/-- The label that the second conversion is given belongs to a variable. -/
theorem toNormalForm_idempotent_matchedLetters :
    ∃ g', (Transform.toNormalForm none 10).run Grammar.matchedLetters = .ok () g' ∧
      g'.hasSymbol "S" = true ∧ (Transform.toNormalForm (some "S") 0).run g' = .ok () g' := by
  obtain ⟨g', h, hs⟩ : ∃ g', (Transform.toNormalForm none 10).run Grammar.matchedLetters =
      .ok () g' ∧ g'.hasSymbol "S" = true := ⟨_, rfl, by decide +kernel⟩
  exact ⟨g', h, hs, toNormalForm_idempotent Grammar.isRead_matchedLetters h (some "S") 0⟩

end ContextFree
