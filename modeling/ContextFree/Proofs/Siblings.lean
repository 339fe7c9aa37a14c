import ContextFree.Simplification
import ContextFree.Proofs.EmptyWord
import Mathlib.Algebra.Order.BigOperators.Group.List
import Mathlib.Algebra.Group.Action.Defs
import Mathlib.Algebra.Order.Ring.Nat
import Mathlib.Data.Nat.Factorial.Basic

/-!
# The worklist of rules that get siblings

Siblings are found one deletion at a time, and a sibling may have siblings of its
own. The plain account of this is a worklist: the first rule that waits is taken,
its owner gets the siblings it does not have yet, and they wait at the end.
`SiblingsRun` states that the worklist runs empty and which rules it leaves.

It does run empty. A rule of `n` symbols has at most `n` siblings, and they are a
symbol shorter, so the numbers `(n + 1)!` of the waiting rules add up to less after
every step, however many rules a step adds.

The rounds in which siblings are added do the work of the worklist for one variable
at a time. A rule gives siblings to its own owner only, so the rules of one variable
that wait are a worklist of their own, `RulesRun`, and a round takes the latest rules
from its front. Since no step leaves a choice, the worklists of the single variables
determine what the common one leaves, order included.
-/

namespace ContextFree

variable {nullable : LabelSet} {known s t : OrderedSet Rhs} {latest waiting : List Rhs}
  {g h : Grammar} {pending : List Production} {a b : String} {r : Rhs}

/-! ## The worklist of one variable -/

/-- The rules of one variable, with some of them waiting, become the third set when
the worklist has run empty. -/
inductive RulesRun (nullable : LabelSet) : OrderedSet Rhs → List Rhs → OrderedSet Rhs → Prop where
  | done {known : OrderedSet Rhs} : RulesRun nullable known [] known
  | next {known s : OrderedSet Rhs} {r : Rhs} {rest : List Rhs} :
      RulesRun nullable (known.insertAll (r.siblings nullable))
        (rest ++ known.additions (r.siblings nullable)) s →
      RulesRun nullable known (r :: rest) s

theorem RulesRun.unique (hs : RulesRun nullable known latest s)
    (ht : RulesRun nullable known latest t) : s = t := by
  induction hs with
  | done => cases ht; rfl
  | next _ ih =>
      cases ht with
      | next ht => exact ih ht

/-- A round is the steps for the rules that it takes from the front. -/
theorem RulesRun.round
    (hs : RulesRun nullable (known.insertAll (latest.flatMap (Rhs.siblings nullable)))
      (waiting ++ known.additions (latest.flatMap (Rhs.siblings nullable))) s) :
    RulesRun nullable known (latest ++ waiting) s := by
  induction latest generalizing known waiting with
  | nil => simpa [OrderedSet.insertAll, OrderedSet.additions] using hs
  | cons r latest ih =>
      rw [List.flatMap_cons, OrderedSet.insertAll_append, OrderedSet.additions_append,
        ← List.append_assoc] at hs
      rw [List.cons_append]
      refine .next ?_
      rw [List.append_assoc]
      exact ih hs

theorem rulesRun_addSiblings {rounds : Nat} (hlatest : ∀ r ∈ latest, r.length ≤ rounds) :
    RulesRun nullable known latest (addSiblings nullable rounds known latest) := by
  induction rounds generalizing known latest with
  | zero =>
      have hnone : latest.flatMap (Rhs.siblings nullable) = [] := by
        refine List.flatMap_eq_nil_iff.2 fun r hr => if_pos ?_
        have := hlatest r hr
        omega
      rw [← List.append_nil latest]
      refine RulesRun.round ?_
      rw [hnone]
      exact .done
  | succ rounds ih =>
      rw [← List.append_nil latest]
      refine RulesRun.round ?_
      rw [List.nil_append, List.append_nil, addSiblings, OrderedSet.insertAll_additions]
      exact ih fun r hr => length_le_of_mem_additions hlatest hr

theorem rulesRun_withoutEmpty {rules : OrderedSet Rhs} :
    RulesRun nullable (rules.filter fun r => !r.isEmpty) (rules.filter fun r => !r.isEmpty).toList
      (withoutEmpty nullable rules) :=
  rulesRun_addSiblings fun _ hr => le_foldl_max (Or.inr (List.mem_map_of_mem hr))

/-! ## The common worklist -/

/-- The siblings of a rule that its owner does not have, as rules of the owner. -/
def Grammar.newSiblings (nullable : LabelSet) (g : Grammar) (p : Production) : List Production :=
  ((g.ruleSet p.lhs).additions (p.rhs.siblings nullable)).map (⟨p.lhs, ·⟩)

/-- A grammar, with some of its rules waiting, becomes the third argument when the
worklist has run empty. -/
inductive SiblingsRun (nullable : LabelSet) : Grammar → List Production → Grammar → Prop where
  | done {g : Grammar} : SiblingsRun nullable g [] g
  | next {g h : Grammar} {p : Production} {rest : List Production} :
      SiblingsRun nullable (g.modifyRules p.lhs (·.insertAll (p.rhs.siblings nullable)))
        (rest ++ g.newSiblings nullable p) h →
      SiblingsRun nullable g (p :: rest) h

theorem Rhs.length_deletions_le (r : Rhs) : (deletions nullable r).length ≤ r.length := by
  induction r with
  | nil => exact Nat.le_refl 0
  | cons s r ih =>
      cases s with
      | terminal t =>
          rw [deletions, List.length_map, List.length_cons]
          omega
      | nonterminal a =>
          simp only [deletions]
          split
          · rw [List.length_cons, List.length_map, List.length_cons]
            omega
          · rw [List.length_map, List.length_cons]
            omega

/-- What a rule that waits counts for: more than its siblings together. -/
def Production.weight (p : Production) : Nat := (p.rhs.length + 1).factorial

theorem sum_weight_newSiblings_lt (g : Grammar) (p : Production) :
    ((g.newSiblings nullable p).map Production.weight).sum < p.weight := by
  unfold Grammar.newSiblings
  generalize hfound : (g.ruleSet p.lhs).additions (p.rhs.siblings nullable) = found
  rw [List.map_map]
  have hcount : found.length ≤ p.rhs.length := by
    refine (hfound ▸ (OrderedSet.additions_sublist ..).length_le).trans ?_
    unfold Rhs.siblings
    split
    · exact Nat.zero_le _
    · exact p.rhs.length_deletions_le
  have hweight : ∀ n ∈ found.map (Production.weight ∘ Production.mk p.lhs),
      n ≤ p.rhs.length.factorial := by
    intro n hn
    obtain ⟨m, hm, rfl⟩ := List.mem_map.1 hn
    rw [← hfound] at hm
    have hm := (Rhs.mem_siblings.1 (OrderedSet.mem_additions.1 hm).1).2
    exact Nat.le_of_eq (congrArg _ (Rhs.erases_of_mem_deletions hm).2)
  calc _ ≤ _ := List.sum_le_card_nsmul _ _ hweight
    _ ≤ p.rhs.length * p.rhs.length.factorial := by
        rw [List.length_map, smul_eq_mul]
        exact Nat.mul_le_mul_right _ hcount
    _ < p.weight := by
        rw [Production.weight, Nat.factorial_succ]
        exact Nat.mul_lt_mul_of_pos_right (Nat.lt_succ_self _) (Nat.factorial_pos _)

/-- The worklist runs empty from wherever it begins. -/
theorem exists_siblingsRun (nullable : LabelSet) (g : Grammar) (pending : List Production) :
    ∃ h, SiblingsRun nullable g pending h := by
  generalize hn : (pending.map Production.weight).sum = n
  induction n using Nat.strongRecOn generalizing g pending with
  | ind n ih =>
      cases pending with
      | nil => exact ⟨g, .done⟩
      | cons p rest =>
          have hlt : ((g.newSiblings nullable p).map Production.weight).sum < p.weight :=
            sum_weight_newSiblings_lt g p
          rw [List.map_cons, List.sum_cons] at hn
          obtain ⟨h, hrun⟩ := ih _ (by rw [← hn, List.map_append, List.sum_append]; omega)
            (g.modifyRules p.lhs (·.insertAll (p.rhs.siblings nullable)))
            (rest ++ g.newSiblings nullable p) rfl
          exact ⟨h, .next hrun⟩

theorem SiblingsRun.frame (hrun : SiblingsRun nullable g pending h) :
    h = { g with rules := h.rules } ∧ h.variableLabels = g.variableLabels := by
  induction hrun with
  | done => exact ⟨rfl, rfl⟩
  | next _ ih =>
      rw [Grammar.variableLabels_modifyRules] at ih
      exact ih

/-- The rules of one variable that wait. -/
def waitingOf (a : String) (pending : List Production) : List Rhs :=
  pending.filterMap fun p => if p.lhs = a then some p.rhs else none

theorem waitingOf_append (a : String) (ps qs : List Production) :
    waitingOf a (ps ++ qs) = waitingOf a ps ++ waitingOf a qs :=
  List.filterMap_append

theorem waitingOf_map (a b : String) (rules : List Rhs) :
    waitingOf a (rules.map (⟨b, ·⟩)) = if b = a then rules else [] := by
  unfold waitingOf
  rw [List.filterMap_map]
  split
  · next e => simp [e]
  · next e => simp [e]

/-- The rules of one variable that wait are a worklist of their own. -/
theorem SiblingsRun.rulesRun (hrun : SiblingsRun nullable g pending h)
    (howner : ∀ p ∈ pending, p.lhs ∈ g.variableLabels) (a : String) :
    RulesRun nullable (g.ruleSet a) (waitingOf a pending) (h.ruleSet a) := by
  induction hrun with
  | done => exact .done
  | @next g h p rest _ ih =>
      have hp := howner p List.mem_cons_self
      have ih := ih fun q hq => by
        rw [Grammar.variableLabels_modifyRules]
        rcases List.mem_append.1 hq with hq | hq
        · exact howner q (List.mem_cons_of_mem _ hq)
        · obtain ⟨m, -, rfl⟩ := List.mem_map.1 hq
          exact hp
      rw [waitingOf_append, Grammar.newSiblings, waitingOf_map, Grammar.ruleSet_modifyRules] at ih
      by_cases e : p.lhs = a
      · subst e
        rw [if_pos ⟨rfl, hp⟩, if_pos rfl] at ih
        rw [show waitingOf p.lhs (p :: rest) = p.rhs :: waitingOf p.lhs rest by simp [waitingOf]]
        exact .next ih
      · rw [if_neg fun h => e h.1.symm, if_neg e, List.append_nil] at ih
        rwa [show waitingOf a (p :: rest) = waitingOf a rest by simp [waitingOf, e]]

/-! ## What the worklist leaves -/

namespace Grammar

/-- Takes the empty rules out and adds nothing in their place. -/
def dropEmptyRules (g : Grammar) : Grammar :=
  { g with rules := g.rules.mapValues fun _ rules => rules.filter fun r => !r.isEmpty }

@[simp]
theorem variableLabels_dropEmptyRules (g : Grammar) :
    g.dropEmptyRules.variableLabels = g.variableLabels :=
  OrderedMap.keys_mapValues ..

theorem ruleSet_dropEmptyRules (g : Grammar) (a : String) :
    g.dropEmptyRules.ruleSet a = (g.ruleSet a).filter fun r => !r.isEmpty := by
  unfold ruleSet dropEmptyRules
  rw [OrderedMap.get?_mapValues]
  cases g.rules.get? a <;> rfl

theorem waitingOf_flatMap {labels : List String} (hnodup : labels.Nodup) (a : String) :
    waitingOf a (labels.flatMap fun b => (g.rulesOf b).map (⟨b, ·⟩)) =
      if a ∈ labels then g.rulesOf a else [] := by
  induction labels with
  | nil => rfl
  | cons b labels ih =>
      rw [List.nodup_cons] at hnodup
      rw [List.flatMap_cons, waitingOf_append, waitingOf_map, ih hnodup.2]
      by_cases e : b = a
      · subst e
        simp [hnodup.1]
      · simp [e, Ne.symm e]

theorem waitingOf_productions (g : Grammar) (a : String) :
    waitingOf a g.productions = g.rulesOf a := by
  have hnodup : g.variableLabels.Nodup := g.rules.nodup_keys
  rw [productions_eq, waitingOf_flatMap hnodup]
  split
  · rfl
  · next h => exact (rulesOf_of_not_mem h).symm

/-- Started with all rules that are not empty, the worklist leaves the rules that
taking the empty rules out gives, in the same order. -/
theorem siblingsRun_removeEmptyRules (g : Grammar) :
    SiblingsRun (g.nullable false) g.dropEmptyRules g.dropEmptyRules.productions
      { g with rules := g.removeEmptyRules.rules } := by
  obtain ⟨h, hrun⟩ := exists_siblingsRun (g.nullable false) g.dropEmptyRules
    g.dropEmptyRules.productions
  obtain ⟨hframe, hvars⟩ := hrun.frame
  have hrules : h.rules = g.removeEmptyRules.rules := by
    refine rules_ext (hvars.trans ?_) fun a => ?_
    · rw [variableLabels_dropEmptyRules, variableLabels_removeEmptyRules]
    · have howner : ∀ p ∈ g.dropEmptyRules.productions, p.lhs ∈ g.dropEmptyRules.variableLabels :=
        fun p hp => mem_variableLabels_of_mem (mem_productions.1 hp)
      have ha := hrun.rulesRun howner a
      rw [waitingOf_productions, rulesOf, ruleSet_dropEmptyRules] at ha
      by_cases hmem : a ∈ g.variableLabels
      · rw [ruleSet_removeEmptyRules hmem]
        exact ha.unique rulesRun_withoutEmpty
      · rw [ruleSet_of_not_mem (by rwa [hvars, variableLabels_dropEmptyRules]),
          ruleSet_of_not_mem (by rwa [variableLabels_removeEmptyRules])]
  rw [hframe, hrules] at hrun
  exact hrun

theorem prefix_removeEmptyRules (g : Grammar) (a : String) :
    ((g.rulesOf a).filter fun r => !r.isEmpty) <+: g.removeEmptyRules.rulesOf a := by
  by_cases ha : a ∈ g.variableLabels
  · rw [rulesOf, rulesOf, ruleSet_removeEmptyRules ha, ← OrderedSet.toList_filter]
    exact prefix_addSiblings
  · rw [rulesOf_of_not_mem ha]
    exact List.nil_prefix

/-- The start symbol derives the empty word through two variables that derive no
other word. -/
def vanishing : Grammar :=
  { blank "S" false with
    terminals := ⟨["c", "d"], by decide⟩
    rules := ⟨[("S", ⟨[[.nonterminal "A", .nonterminal "B"],
        [.terminal "c", .nonterminal "S", .terminal "d"]], by decide⟩),
      ("A", ⟨[[]], by decide⟩), ("B", ⟨[[], [.nonterminal "A"]], by decide⟩)], by decide⟩ }

end Grammar

namespace Transform

/-- The worklist runs empty, and the rules of a variable are then those it had, in
their order and without the empty one, followed by what else is left of them when
nullable variables are left out. -/
theorem removeEmptyRules_rules (g : Grammar) :
    ∃ g', removeEmptyRules.run g = .ok () g' ∧ g'.terminals = g.terminals ∧
      g'.variableLabels = g.variableLabels ∧
      SiblingsRun (g.nullable false) g.dropEmptyRules g.dropEmptyRules.productions
        { g with rules := g'.rules } ∧
      (∀ a, (g.nullable false).contains a = true ↔ Derives g [.nonterminal a] []) ∧
      ∀ a, (g'.rulesOf a).Nodup ∧ ((g.rulesOf a).filter fun r => !r.isEmpty) <+: g'.rulesOf a ∧
        ∀ r', r' ∈ g'.rulesOf a ↔
          r' ≠ [] ∧ ∃ r ∈ g.rulesOf a, Rhs.Erases (g.nullable false) r r' :=
  ⟨g.removeEmptyRules, rfl, rfl, g.variableLabels_removeEmptyRules,
    g.siblingsRun_removeEmptyRules, fun _ => Grammar.nullable_iff,
    fun a => ⟨(g.removeEmptyRules.ruleSet a).nodup, g.prefix_removeEmptyRules a,
      fun _ => Grammar.mem_rulesOf_removeEmptyRules⟩⟩

example : Grammar.vanishing.removeEmptyRules.rulesOf "S" =
    [[.nonterminal "A", .nonterminal "B"], [.terminal "c", .nonterminal "S", .terminal "d"],
      [.nonterminal "B"], [.nonterminal "A"], [.terminal "c", .terminal "d"]] := by
  decide +kernel

/-- Every variable keeps its words but the empty one, and whether the start symbol
derived that is remembered. -/
theorem removeEmptyRules_words {g : Grammar} (hflag : g.acceptsEmpty = false) :
    ∃ g', removeEmptyRules.run g = .ok () g' ∧ (∀ a, [] ∉ g'.rulesOf a) ∧
      (∀ a w, Derives g' [.nonterminal a] w ↔ Derives g [.nonterminal a] w ∧ w ≠ []) ∧
      (g'.acceptsEmpty = true ↔ Derives g [.nonterminal g.start] []) := by
  refine ⟨g.removeEmptyRules, rfl, Grammar.nil_not_mem_removeEmptyRules, ?_, ?_⟩
  · exact fun a w => Grammar.derives_removeEmptyRules_iff
  · rw [Grammar.acceptsEmpty_removeEmptyRules_iff, hflag]
    simp [Grammar.Generates]

theorem removeEmptyRules_vanishing :
    Grammar.vanishing.acceptsEmpty = false ∧
      ∃ g', removeEmptyRules.run Grammar.vanishing = .ok () g' ∧ (∀ a, [] ∉ g'.rulesOf a) ∧
        (∀ a w, Derives g' [.nonterminal a] w ↔
          Derives Grammar.vanishing [.nonterminal a] w ∧ w ≠ []) ∧
        (g'.acceptsEmpty = true ↔
          Derives Grammar.vanishing [.nonterminal Grammar.vanishing.start] []) :=
  ⟨rfl, removeEmptyRules_words rfl⟩

end Transform

end ContextFree
