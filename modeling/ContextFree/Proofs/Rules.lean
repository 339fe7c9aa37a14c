import ContextFree.Grammar.Transform
import Mathlib.Data.List.Nodup

/-!
# The rules of a variable as the view of a grammar

What a grammar derives hangs on one function of it, `rulesOf`: the rules of a
variable, none for a label that is not registered. This file says for every
basic operation what it does to that function and to the list of registered
variables. After it no proof looks at the table in which a grammar keeps its
rules.

The operations on a grammar that make its rules smaller are stated as filters
on lists, so the order of the rules is part of the statement.
-/

namespace ContextFree.Grammar

variable {g : Grammar} {a b : String} {rhs : Rhs}

@[simp]
theorem hasVariable_iff : g.hasVariable a = true ↔ a ∈ g.variableLabels :=
  OrderedMap.contains_iff

@[simp]
theorem hasVariable_eq_false_iff : g.hasVariable a = false ↔ a ∉ g.variableLabels := by
  rw [← hasVariable_iff, Bool.not_eq_true]

theorem ruleSet_of_get? {rules : OrderedSet Rhs} (h : g.rules.get? a = some rules) :
    g.ruleSet a = rules := by
  rw [ruleSet, h, Option.getD_some]

theorem ruleSet_of_not_mem (h : a ∉ g.variableLabels) : g.ruleSet a = .empty := by
  rw [ruleSet, OrderedMap.get?_eq_none_of_not_mem h, Option.getD_none]

theorem rulesOf_of_not_mem (h : a ∉ g.variableLabels) : g.rulesOf a = [] := by
  rw [rulesOf, ruleSet_of_not_mem h]
  rfl

theorem mem_variableLabels_of_mem (h : rhs ∈ g.rulesOf a) : a ∈ g.variableLabels := by
  refine Decidable.byContradiction fun hn => ?_
  rw [rulesOf_of_not_mem hn] at h
  cases h

theorem mem_entries_iff {rules : OrderedSet Rhs} :
    (a, rules) ∈ g.rules.entries ↔ a ∈ g.variableLabels ∧ g.ruleSet a = rules := by
  rw [OrderedMap.mem_entries_iff]
  constructor
  · exact fun h => ⟨OrderedMap.mem_keys_of_get? h, ruleSet_of_get? h⟩
  · intro hx
    obtain ⟨h, rfl⟩ := hx
    obtain ⟨v, hv⟩ := OrderedMap.mem_keys_iff.1 h
    rw [hv, ruleSet_of_get? hv]

/-- The table of a grammar holds the variables in their order, each with its rules. -/
theorem entries_eq (g : Grammar) :
    g.rules.entries = g.variableLabels.map fun a => (a, g.ruleSet a) := by
  show _ = (g.rules.entries.map Prod.fst).map _
  rw [List.map_map]
  refine (List.map_id' _).symm.trans (List.map_congr_left fun e he => ?_)
  exact Prod.ext rfl (mem_entries_iff.1 he).2.symm

theorem rules_ext {h : Grammar} (hvars : h.variableLabels = g.variableLabels)
    (hrules : ∀ a, h.ruleSet a = g.ruleSet a) : h.rules = g.rules := by
  refine OrderedMap.ext ?_
  rw [entries_eq, entries_eq, hvars]
  exact List.map_congr_left fun a _ => by rw [hrules]

theorem productions_eq (g : Grammar) :
    g.productions = g.variableLabels.flatMap fun a => (g.rulesOf a).map (⟨a, ·⟩) := by
  rw [productions, entries_eq, List.flatMap_map]
  rfl

theorem mem_productions {p : Production} : p ∈ g.productions ↔ p.rhs ∈ g.rulesOf p.lhs := by
  rw [productions_eq, List.mem_flatMap]
  constructor
  · intro hx
    obtain ⟨a, -, hp⟩ := hx
    obtain ⟨rhs, hr, rfl⟩ := List.mem_map.1 hp
    exact hr
  · intro h
    exact ⟨p.lhs, mem_variableLabels_of_mem h, List.mem_map.2 ⟨p.rhs, h, rfl⟩⟩

/-- No rule is listed twice: a variable has one entry, and its rules are a set. -/
theorem nodup_productions (g : Grammar) : g.productions.Nodup := by
  have hlabels : g.variableLabels.Nodup := g.rules.nodup_keys
  rw [productions_eq]
  refine List.nodup_flatMap.2 ⟨fun a _ => ?_, hlabels.imp fun hne p hp hq => ?_⟩
  · exact (g.ruleSet a).nodup.map fun r s h => congrArg Production.rhs h
  · obtain ⟨r, -, rfl⟩ := List.mem_map.1 hp
    obtain ⟨s, -, h⟩ := List.mem_map.1 hq
    exact hne (congrArg Production.lhs h).symm

theorem mem_units : (a, b) ∈ g.units ↔ [.nonterminal b] ∈ g.rulesOf a := by
  rw [units, List.mem_filterMap]
  constructor
  · intro hx
    obtain ⟨p, hp, h⟩ := hx
    obtain ⟨c, hc, h⟩ := Option.map_eq_some_iff.1 h
    obtain ⟨rfl, rfl⟩ := Prod.mk.injEq .. ▸ h
    exact Rhs.unit?_eq_some_iff.1 hc ▸ mem_productions.1 hp
  · exact fun h => ⟨⟨a, [.nonterminal b]⟩, mem_productions.2 h, rfl⟩

/-! ## Adding symbols and rules -/

theorem mem_variableLabels_addVariable :
    b ∈ (g.addVariable a).variableLabels ↔ b ∈ g.variableLabels ∨ b = a :=
  OrderedMap.mem_keys_insertNew

@[simp]
theorem ruleSet_addVariable (g : Grammar) (a b : String) :
    (g.addVariable a).ruleSet b = g.ruleSet b := by
  unfold ruleSet addVariable
  rw [OrderedMap.get?_insertNew]
  split
  · next h => rw [h.1, OrderedMap.get?_eq_none_of_not_mem h.2]; rfl
  · rfl

theorem ruleSet_modifyRules (g : Grammar) (a b : String) (f : OrderedSet Rhs → OrderedSet Rhs) :
    (g.modifyRules a f).ruleSet b =
      if b = a ∧ a ∈ g.variableLabels then f (g.ruleSet a) else g.ruleSet b := by
  unfold modifyRules ruleSet
  rw [OrderedMap.get?_modify]
  by_cases e : b = a
  · subst e
    by_cases h : b ∈ g.variableLabels
    · obtain ⟨v, hv⟩ := OrderedMap.mem_keys_iff.1 h
      simp [h, hv]
    · have hn : g.rules.get? b = none := OrderedMap.get?_eq_none_of_not_mem h
      simp [h, hn]
  · simp [e]

/-! ## Taking variables out -/

theorem variableLabels_removeVariable (g : Grammar) (a : String) :
    (g.removeVariable a).variableLabels = g.variableLabels.filter (· ≠ a) := by
  show ((g.rules.mapValues _).erase a).keys = _
  rw [OrderedMap.keys_erase, OrderedMap.keys_mapValues]
  rfl

theorem rulesOf_removeVariable (g : Grammar) (a b : String) :
    (g.removeVariable a).rulesOf b =
      if b = a then [] else (g.rulesOf b).filter fun rhs => !rhs.mentions a := by
  unfold rulesOf ruleSet removeVariable
  simp only [OrderedMap.get?_erase, OrderedMap.get?_mapValues]
  split
  · rfl
  · cases g.rules.get? b <;> rfl

theorem productions_removeVariable (g : Grammar) (a : String) :
    (g.removeVariable a).productions =
      g.productions.filter fun p => p.lhs ≠ a && !p.rhs.mentions a := by
  rw [productions_eq, productions_eq, variableLabels_removeVariable, List.filter_flatMap]
  induction g.variableLabels with
  | nil => rfl
  | cons b labels ih =>
      rw [List.filter_cons, List.flatMap_cons, ← ih, List.filter_map]
      by_cases e : b = a
      · simp [e, Function.comp_def]
      · simp [e, Function.comp_def, rulesOf_removeVariable]

theorem productions_foldl_removeVariable_sublist (labels : List String) (g : Grammar) :
    (labels.foldl removeVariable g).productions.Sublist g.productions := by
  induction labels generalizing g with
  | nil => exact List.Sublist.refl _
  | cons a labels ih =>
      refine (ih (g.removeVariable a)).trans ?_
      rw [productions_removeVariable]
      exact List.filter_sublist

/-- The rules that are left when several variables are taken out one by one: no
rule of theirs, and no rule that mentions one of them. -/
theorem rulesOf_foldl_removeVariable (labels : List String) (g : Grammar) (b : String) :
    (labels.foldl removeVariable g).rulesOf b =
      if b ∈ labels then []
      else (g.rulesOf b).filter fun rhs => labels.all fun a => !rhs.mentions a := by
  induction labels generalizing g with
  | nil =>
      rw [if_neg List.not_mem_nil]
      exact (List.filter_eq_self.2 fun _ _ => rfl).symm
  | cons a labels ih =>
      rw [List.foldl_cons, ih, rulesOf_removeVariable]
      by_cases hb : b ∈ labels
      · simp [hb]
      · by_cases e : b = a
        · simp [e]
        · simp [hb, e, List.filter_filter, Bool.and_comm]

theorem variableLabels_foldl_removeVariable (labels : List String) (g : Grammar) :
    (labels.foldl removeVariable g).variableLabels =
      g.variableLabels.filter fun b => !labels.contains b := by
  induction labels generalizing g with
  | nil => exact (List.filter_eq_self.2 fun _ _ => rfl).symm
  | cons a labels ih =>
      rw [List.foldl_cons, ih, variableLabels_removeVariable, List.filter_filter]
      refine List.filter_congr fun b _ => ?_
      by_cases e : b = a <;> simp [e]

end ContextFree.Grammar
