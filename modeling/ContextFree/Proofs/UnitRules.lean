import ContextFree.UnitRules
import ContextFree.Proofs.Derivation
import ContextFree.Proofs.Outcome
import ContextFree.Proofs.WellFormed
import Mathlib.Logic.Function.Iterate

/-!
# Taking out the single-nonterminal rules keeps all words

One step replaces a rule `A -> B` by the rules of `B`, except two that would be of
no use: `B -> A`, which is not copied, and a copied `B -> B`, which goes with the
rule that is replaced. A derivation that used `A -> B` goes on with a rule of `B`.
If that is one of the two, the tree below it holds a lower tree for the same
variable and word, so the derivation is rearranged by induction on its height.

Everything else is carried from one step to a pass and from passes to the whole
program by one induction each, for any property that a step keeps. That covers
the run that stops at the limit too, since it stops between two passes: whichever
way a run ends, its limit many passes were made, and those after the last single
nonterminal went change nothing.
-/

namespace ContextFree

namespace Grammar

variable {g : Grammar} {a b c : String} {r : Rhs} {w : Word}

/-! ## One step -/

theorem inlineUnit_of_not_mem (h : [.nonterminal b] ∉ g.rulesOf a) : g.inlineUnit a b = g := by
  unfold inlineUnit
  exact if_neg (mt List.contains_iff_mem.1 h)

theorem mem_rulesOf_inlineUnit (h : [.nonterminal b] ∈ g.rulesOf a) :
    r ∈ (g.inlineUnit a b).rulesOf c ↔
      if c = a then (r ∈ g.rulesOf a ∨ r ∈ g.rulesOf b ∧ r ≠ [.nonterminal a]) ∧
        r ≠ [.nonterminal b]
      else r ∈ g.rulesOf c := by
  have hu : (g.ruleSet a).toList.contains [.nonterminal b] = true := List.contains_iff_mem.2 h
  unfold inlineUnit
  rw [if_pos hu, rulesOf, ruleSet_modifyRules]
  by_cases e : c = a
  · subst e
    rw [if_pos ⟨rfl, mem_variableLabels_of_mem h⟩, if_pos rfl, OrderedSet.mem_toList,
      OrderedSet.mem_erase, OrderedSet.mem_insertAll, List.mem_filter, and_comm, decide_eq_true_iff]
    rfl
  · rw [if_neg fun h => e h.1, if_neg e]
    rfl

@[simp]
theorem variableLabels_inlineUnit (g : Grammar) (a b : String) :
    (g.inlineUnit a b).variableLabels = g.variableLabels := by
  unfold inlineUnit
  split
  · exact variableLabels_modifyRules ..
  · rfl

theorem inlineUnit_eq (g : Grammar) (a b : String) :
    g.inlineUnit a b = { g with rules := (g.inlineUnit a b).rules } := by
  unfold inlineUnit
  split <;> rfl

@[simp]
theorem inlineUnit_start (g : Grammar) (a b : String) : (g.inlineUnit a b).start = g.start := by
  rw [inlineUnit_eq]

theorem uses_of_inlineUnit {s : Symbol} (h : (g.inlineUnit a b).Uses s) : g.Uses s := by
  by_cases hu : [.nonterminal b] ∈ g.rulesOf a
  · obtain ⟨c, r, hr, hs⟩ := h
    rw [mem_rulesOf_inlineUnit hu] at hr
    split at hr
    · rcases hr.1 with hr | hr
      · exact .intro hr hs
      · exact .intro hr.1 hs
    · exact .intro hr hs
  · rwa [inlineUnit_of_not_mem hu] at h

theorem WellFormed.inlineUnit (hg : g.WellFormed) (a b : String) :
    (g.inlineUnit a b).WellFormed := by
  refine hg.of_uses ?_ (variableLabels_inlineUnit g a b) ?_ fun _ => uses_of_inlineUnit
  · exact inlineUnit_start g a b
  · rw [inlineUnit_eq]

theorem derives_of_inlineUnit (d : Derives (g.inlineUnit a b) r w) : Derives g r w := by
  by_cases hu : [.nonterminal b] ∈ g.rulesOf a
  · refine d.of_admissible fun c q hq u dq => ?_
    rw [mem_rulesOf_inlineUnit hu] at hq
    split at hq
    · next e =>
        subst e
        rcases hq.1 with hq | hq
        · exact derives_variable_iff.2 ⟨q, hq, dq⟩
        · exact derives_variable_iff.2 ⟨_, hu, derives_variable_iff.2 ⟨q, hq.1, dq⟩⟩
    · exact derives_variable_iff.2 ⟨q, hq, dq⟩
  · rwa [inlineUnit_of_not_mem hu] at d

theorem derives_inlineUnit (d : Derives g r w) : Derives (g.inlineUnit a b) r w := by
  by_cases hu : [.nonterminal b] ∈ g.rulesOf a
  · refine d.of_admissible_within fun n c u ih d => ?_
    obtain ⟨m, hm, r, hr, d⟩ := derivesWithin_variable_iff.1 d
    obtain rfl : n = m := by omega
    have hrule : (c = a → r ≠ [.nonterminal b]) → Derives (g.inlineUnit a b) [.nonterminal c] u := by
      intro hne
      refine derives_variable_iff.2 ⟨r, (mem_rulesOf_inlineUnit hu).2 ?_, ih r u d⟩
      split
      · next e => exact ⟨Or.inl (e ▸ hr), hne e⟩
      · exact hr
    by_cases hunit : c = a ∧ r = [.nonterminal b]
    · -- the replaced rule was used: go on with the rule of the target below it
      obtain ⟨rfl, rfl⟩ := hunit
      obtain ⟨m, rfl, q, hq, dq⟩ := derivesWithin_variable_iff.1 d
      by_cases hqa : q = [.nonterminal c]
      · exact ih _ _ (hqa ▸ dq.mono (Nat.le_succ m))
      · by_cases hqb : q = [.nonterminal b]
        · exact ih _ _ (derivesWithin_variable_iff.2 ⟨m, rfl, _, hr, hqb ▸ dq⟩)
        · refine derives_variable_iff.2 ⟨q, (mem_rulesOf_inlineUnit hu).2 ?_, ?_⟩
          · rw [if_pos rfl]
            exact ⟨Or.inr ⟨hq, hqa⟩, hqb⟩
          · exact ih q u (dq.mono (Nat.le_succ m))
    · exact hrule fun hc hr => hunit ⟨hc, hr⟩
  · rwa [inlineUnit_of_not_mem hu]

theorem derives_inlineUnit_iff : Derives (g.inlineUnit a b) r w ↔ Derives g r w :=
  ⟨derives_of_inlineUnit, derives_inlineUnit⟩

theorem accepts_inlineUnit_iff : (g.inlineUnit a b).Accepts w ↔ g.Accepts w := by
  have hflag : (g.inlineUnit a b).acceptsEmpty = g.acceptsEmpty := by rw [inlineUnit_eq]
  unfold Accepts Generates
  rw [inlineUnit_start, hflag, derives_inlineUnit_iff]

theorem nil_not_mem_inlineUnit (hne : ∀ a, [] ∉ g.rulesOf a) (c : String) :
    [] ∉ (g.inlineUnit a b).rulesOf c := by
  by_cases hu : [.nonterminal b] ∈ g.rulesOf a
  · rw [mem_rulesOf_inlineUnit hu]
    split
    · intro h
      obtain ⟨hr | hr, -⟩ := h
      · exact hne a hr
      · exact hne b hr.1
    · exact hne c
  · rw [inlineUnit_of_not_mem hu]
    exact hne c

/-! ## Passes -/

theorem unitPass_induct {P : Grammar → Prop} (hstep : ∀ g a b, P g → P (g.inlineUnit a b))
    (hg : P g) : P g.unitPass := by
  unfold unitPass
  generalize g.units = units
  induction units generalizing g with
  | nil => exact hg
  | cons u units ih => exact ih (hstep g u.1 u.2 hg)

theorem iterate_unitPass_induct {P : Grammar → Prop}
    (hstep : ∀ g a b, P g → P (g.inlineUnit a b)) (n : Nat) (hg : P g) : P (unitPass^[n] g) :=
  Function.Iterate.rec P hg (fun _ => unitPass_induct hstep) n

theorem units_isEmpty_iff : g.units.isEmpty = true ↔ ∀ a b, [.nonterminal b] ∉ g.rulesOf a := by
  rw [List.isEmpty_iff, List.eq_nil_iff_forall_not_mem, Prod.forall]
  exact forall_congr' fun a => forall_congr' fun b => not_congr mem_units

theorem unitPass_of_isEmpty (h : g.units.isEmpty = true) : g.unitPass = g := by
  unfold unitPass
  rw [List.isEmpty_iff.1 h]
  rfl

end Grammar

namespace Transform

theorem unitPasses_run (passes : Nat) (g : Grammar) :
    (unitPasses passes).run g =
      .ok (Grammar.unitPass^[passes] g).units.isEmpty (Grammar.unitPass^[passes] g) := by
  induction passes generalizing g with
  | zero => rfl
  | succ passes ih =>
      show EStateM.run (if g.units.isEmpty then pure true else
        do modify Grammar.unitPass; unitPasses passes) g = _
      split
      · next h =>
          rw [Function.iterate_fixed (Grammar.unitPass_of_isEmpty h), h]
          rfl
      · exact ih g.unitPass

/-- The grammar at the end of a run went through as many passes as the limit
allows, and the run returned if they were enough. -/
theorem removeUnits_run (limit : Int) (g : Grammar) :
    (removeUnits limit).run g =
      if (Grammar.unitPass^[limit.toNat] g).units.isEmpty
      then .ok () (Grammar.unitPass^[limit.toNat] g)
      else .error (.unitsRemain limit) (Grammar.unitPass^[limit.toNat] g) := by
  rw [removeUnits, EStateM.run_bind, unitPasses_run]
  cases (Grammar.unitPass^[limit.toNat] g).units.isEmpty <;> rfl

/-- The program keeps what a step keeps, also if it stops, and when it returns no
rule is a single nonterminal. -/
theorem removeUnits_ends {P : Grammar → Prop} (hstep : ∀ g a b, P g → P (g.inlineUnit a b))
    (limit : Int) {g : Grammar} (hg : P g) :
    Ends ((removeUnits limit).run g)
      (fun _ g' => P g' ∧ ∀ a b, [.nonterminal b] ∉ g'.rulesOf a) fun _ g' => P g' := by
  have hkept := Grammar.iterate_unitPass_induct hstep limit.toNat hg
  rw [removeUnits_run]
  split
  · next h => exact ⟨hkept, Grammar.units_isEmpty_iff.1 h⟩
  · exact hkept

end Transform

end ContextFree
