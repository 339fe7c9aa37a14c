import ContextFree.Proofs.Reading
import ContextFree.Proofs.Saturation
import ContextFree.Proofs.UnitClosure
import Mathlib.Dynamics.PeriodicPts.Lemmas

/-!
# When the passes over single-nonterminal rules come to an end

A step takes a rule `A -> B` out and gives `A` the single nonterminals of `B`, so
neither their number nor their targets get smaller, and a rule that a pass took out
may be back at its end. Whether the passes come to an end hangs on the variables
that lead to one another in a circle.

If no three of them do, the rules go in a fixed order. The span of a variable is
the number of variables it leads to; a rule leads to a variable of the same span
or of a smaller one, and of the same only inside a circle. The level of a rule
puts the rules of small owners first, and among the rules of one owner those
inside a circle. A step on a rule of `A` brings back rules of the level of that
rule or of a higher one. It brings back none of the lowest level that is left: a
target with rules of its own would be a second variable in the circle of `A`, and
the new target a third. So every pass takes one level out for good.

With five variables in one circle that can fail. `circling` is read from five lines
with eight single nonterminals. From its third pass on the passes repeat one
another with a period of nine, and no limit is high enough.
-/

namespace ContextFree

namespace Grammar

variable {g h : Grammar} {a b c d : String} {n : Nat}

/-- Of three variables that lead to one another two are the same. -/
def UnitsPaired (g : Grammar) : Prop :=
  ∀ a b c, g.UnitReaches a b → g.UnitReaches b c → g.UnitReaches c a → a = b ∨ b = c ∨ c = a

theorem exists_mem_units_of_ne (hr : g.UnitReaches a b) (hne : a ≠ b) :
    ∃ c, (a, c) ∈ g.units := by
  rcases hr.cases_head with e | ⟨c, hstep, -⟩
  · exact absurd e hne
  · exact ⟨c, mem_units.2 hstep⟩

/-! ## The level of a rule -/

open Classical in
/-- The number of variables to which single-nonterminal rules lead. -/
noncomputable def unitSpan (g : Grammar) (a : String) : Nat :=
  g.variableLabels.countP fun b => decide (g.UnitReaches a b)

theorem unitSpan_le (hr : g.UnitReaches a b) : g.unitSpan b ≤ g.unitSpan a := by
  classical
  exact List.countP_mono_left fun _ _ hc => decide_eq_true (hr.trans (of_decide_eq_true hc))

/-- A variable is led back to from the variables of the same span. -/
theorem unitReaches_of_unitSpan_le (ha : a ∈ g.variableLabels) (hr : g.UnitReaches a b)
    (hspan : g.unitSpan a ≤ g.unitSpan b) : g.UnitReaches b a := by
  classical
  by_contra hn
  have hlt : g.unitSpan b < g.unitSpan a :=
    countP_lt_countP (fun c _ hc => decide_eq_true (hr.trans (of_decide_eq_true hc))) ha
      (decide_eq_false hn) (decide_eq_true .refl)
  omega

/-- The level of a rule of the first variable that is the second one. -/
noncomputable def unitLevel (g : Grammar) (a b : String) : Nat :=
  if g.unitSpan b < g.unitSpan a then 2 * g.unitSpan a + 1 else 2 * g.unitSpan a

theorem unitLevel_lt (g : Grammar) (a b : String) :
    g.unitLevel a b < 2 * g.variableLabels.length + 2 := by
  have hle : g.unitSpan a ≤ g.variableLabels.length := List.countP_le_length
  unfold unitLevel
  split <;> omega

theorem unitLevel_le (hbc : g.UnitReaches b c) (hab : g.UnitReaches a b) :
    g.unitLevel a b ≤ g.unitLevel a c := by
  have := unitSpan_le hbc
  have := unitSpan_le hab
  unfold unitLevel
  split <;> split <;> omega

/-- A path of two rules of which the second has no lower level than the first stays
inside a circle. -/
theorem unitReaches_back (ha : a ∈ g.variableLabels) (hb : b ∈ g.variableLabels)
    (hab : g.UnitReaches a b) (hbc : g.UnitReaches b c)
    (hfirst : g.unitLevel a c ≤ g.unitLevel a b) (hsecond : g.unitLevel a b ≤ g.unitLevel b c) :
    g.UnitReaches c a := by
  have hspan : g.unitSpan a ≤ g.unitSpan b ∧ g.unitSpan b ≤ g.unitSpan c := by
    have := unitSpan_le hab
    have := unitSpan_le hbc
    unfold unitLevel at hfirst hsecond
    split at hsecond <;> split at hsecond <;> split at hfirst <;> omega
  exact (unitReaches_of_unitSpan_le hb hbc hspan.2).trans
    (unitReaches_of_unitSpan_le ha hab hspan.1)

/-! ## A pass takes the lowest level out -/

/-- The single nonterminals of the second grammar come from paths in the first, and
none is below the level. -/
structure UnitsFrom (g : Grammar) (n : Nat) (h : Grammar) : Prop where
  variableLabels_eq : h.variableLabels = g.variableLabels
  reaches : ∀ a b, h.UnitStep a b → g.UnitReaches a b
  le_level : ∀ a b, h.UnitStep a b → n ≤ g.unitLevel a b

namespace UnitsFrom

theorem mem (hh : g.UnitsFrom n h) (hu : h.UnitStep a b) : a ∈ g.variableLabels :=
  hh.variableLabels_eq ▸ mem_variableLabels_of_mem hu

theorem inlineUnit (hh : g.UnitsFrom n h) (a b : String) : g.UnitsFrom n (h.inlineUnit a b) := by
  by_cases hu : h.UnitStep a b
  · have hstep : ∀ c d, (h.inlineUnit a b).UnitStep c d →
        h.UnitStep c d ∨ c = a ∧ h.UnitStep b d := by
      intro c d hcd
      rw [unitStep_inlineUnit_iff hu] at hcd
      split at hcd
      · next e => exact hcd.1.imp (e ▸ ·) fun hbd => ⟨e, hbd.1⟩
      · exact Or.inl hcd
    refine ⟨(variableLabels_inlineUnit h a b).trans hh.variableLabels_eq, ?_, ?_⟩
    · intro c d hcd
      rcases hstep c d hcd with hcd | ⟨rfl, hbd⟩
      · exact hh.reaches c d hcd
      · exact (hh.reaches c b hu).trans (hh.reaches b d hbd)
    · intro c d hcd
      rcases hstep c d hcd with hcd | ⟨rfl, hbd⟩
      · exact hh.le_level c d hcd
      · exact (hh.le_level c b hu).trans (unitLevel_le (hh.reaches b d hbd) (hh.reaches c b hu))
  · rwa [inlineUnit_of_not_mem hu]

/-- Two of the three variables on a path of two rules are the same if its ends are a
pair of the lowest level. -/
theorem eq_or_eq_of_level_eq (hp : g.UnitsPaired) (hh : g.UnitsFrom n h) (hab : h.UnitStep a b)
    (hbc : h.UnitStep b c) (hlevel : g.unitLevel a c = n) : c = a ∨ c = b ∨ a = b := by
  have hreach := hh.reaches b c hbc
  have hback : g.UnitReaches c a := by
    refine unitReaches_back (hh.mem hab) (hh.mem hbc) (hh.reaches a b hab) hreach ?_ ?_
    · exact hlevel.trans_le (hh.le_level a b hab)
    · exact (unitLevel_le hreach (hh.reaches a b hab)).trans
        (hlevel.trans_le (hh.le_level b c hbc))
  rcases hp a b c (hh.reaches a b hab) hreach hback with hab | hbc | hca
  · exact Or.inr (Or.inr hab)
  · exact Or.inr (Or.inl hbc.symm)
  · exact Or.inl hca

/-- A step brings no rule of the lowest level, and the rule it replaces is gone. -/
theorem of_level_eq (hp : g.UnitsPaired) (hh : g.UnitsFrom n h)
    (hcd : (h.inlineUnit a b).UnitStep c d) (hlevel : g.unitLevel c d = n) :
    h.UnitStep c d ∧ (c, d) ≠ (a, b) := by
  by_cases hu : h.UnitStep a b
  · rw [unitStep_inlineUnit_iff hu] at hcd
    split at hcd
    · next e =>
        subst e
        obtain ⟨hcd, hdb⟩ := hcd
        refine ⟨?_, fun e => hdb (congrArg Prod.snd e)⟩
        rcases hcd with hcd | ⟨hbd, hdc⟩
        · exact hcd
        · rcases hh.eq_or_eq_of_level_eq hp hu hbd hlevel with e | e | rfl
          · exact absurd e hdc
          · exact absurd e hdb
          · exact hbd
    · next hne => exact ⟨hcd, fun e => hne (congrArg Prod.fst e)⟩
  · rw [inlineUnit_of_not_mem hu] at hcd
    refine ⟨hcd, fun e => hu ?_⟩
    obtain ⟨rfl, rfl⟩ := Prod.mk.injEq .. ▸ e
    exact hcd

theorem foldl_inlineUnit (hp : g.UnitsPaired) (hh : g.UnitsFrom n h)
    (units : List (String × String)) :
    g.UnitsFrom n (units.foldl (fun h u => h.inlineUnit u.1 u.2) h) ∧
      ∀ c d, (units.foldl (fun h u => h.inlineUnit u.1 u.2) h).UnitStep c d →
        g.unitLevel c d = n → h.UnitStep c d ∧ (c, d) ∉ units := by
  induction units generalizing h with
  | nil => exact ⟨hh, fun c d hcd _ => ⟨hcd, List.not_mem_nil⟩⟩
  | cons u units ih =>
      obtain ⟨hfrom, hleft⟩ := ih (hh.inlineUnit u.1 u.2)
      refine ⟨hfrom, fun c d hcd hlevel => ?_⟩
      obtain ⟨hcd, hnot⟩ := hleft c d hcd hlevel
      obtain ⟨hcd, hne⟩ := hh.of_level_eq hp hcd hlevel
      exact ⟨hcd, List.not_mem_cons_of_ne_of_not_mem hne hnot⟩

theorem unitPass (hp : g.UnitsPaired) (hh : g.UnitsFrom n h) :
    g.UnitsFrom (n + 1) h.unitPass := by
  obtain ⟨hfrom, hleft⟩ := hh.foldl_inlineUnit hp h.units
  refine ⟨hfrom.variableLabels_eq, hfrom.reaches, fun c d hcd => ?_⟩
  refine Nat.lt_of_le_of_ne (hfrom.le_level c d hcd) fun hlevel => ?_
  obtain ⟨hu, hnot⟩ := hleft c d hcd hlevel.symm
  exact hnot (mem_units.2 hu)

theorem iterate (hp : g.UnitsPaired) (n : Nat) : g.UnitsFrom n (Grammar.unitPass^[n] g) := by
  induction n with
  | zero => exact ⟨rfl, fun _ _ hu => .single hu, fun _ _ _ => Nat.zero_le _⟩
  | succ n ih =>
      rw [Function.iterate_succ_apply']
      exact ih.unitPass hp

end UnitsFrom

end Grammar

/-- Without a circle of three variables the single nonterminals are gone after twice
as many passes as there are variables, and two more. -/
theorem Transform.removeUnits_returns {g : Grammar} (hp : g.UnitsPaired) (limit : Int)
    (hlimit : 2 * g.variableLabels.length + 2 ≤ limit) :
    ∃ g', (removeUnits limit).run g = .ok () g' := by
  refine ⟨Grammar.unitPass^[limit.toNat] g, ?_⟩
  rw [removeUnits_run, if_pos]
  refine Grammar.units_isEmpty_iff.2 fun a b hu => ?_
  have hlow := (Grammar.UnitsFrom.iterate hp limit.toNat).le_level a b hu
  have hhigh := g.unitLevel_lt a b
  omega

namespace Grammar

/-- Two variables that are rules of one another, and a third one that is a rule of
the second. -/
def mutualPair : Grammar :=
  { blank "S" false with
    terminals := ⟨["a", "b", "c"], by decide⟩
    rules := ⟨[("S", ⟨[[.nonterminal "A"], [.terminal "a"]], by decide⟩),
      ("A", ⟨[[.nonterminal "S"], [.nonterminal "T"], [.terminal "b"]], by decide⟩),
      ("T", ⟨[[.terminal "c"]], by decide⟩)], by decide⟩ }

theorem unitsPaired_mutualPair : mutualPair.UnitsPaired := by
  have howner : ∀ a b, mutualPair.UnitReaches a b → a ≠ b → a = "S" ∨ a = "A" := by
    intro a b hr hne
    obtain ⟨c, hc⟩ := exists_mem_units_of_ne hr hne
    rw [show mutualPair.units = [("S", "A"), ("A", "S"), ("A", "T")] by decide] at hc
    simp only [List.mem_cons, Prod.mk.injEq, List.not_mem_nil, or_false] at hc
    tauto
  intro a b c hab hbc hca
  by_contra hne
  simp only [not_or] at hne
  have ha := howner a b hab hne.1
  have hb := howner b c hbc hne.2.1
  have hc := howner c a hca hne.2.2
  grind

end Grammar

theorem Transform.removeUnits_mutualPair :
    Grammar.mutualPair.UnitsPaired ∧ (2 * Grammar.mutualPair.variableLabels.length + 2 : Int) ≤ 8 ∧
      ∃ g', (removeUnits 8).run Grammar.mutualPair = .ok () g' :=
  ⟨Grammar.unitsPaired_mutualPair, by decide,
    removeUnits_returns Grammar.unitsPaired_mutualPair 8 (by decide)⟩

/-! ## A circle of five variables -/

namespace Grammar

/-- Every variable derives the letter `d` and nothing else. -/
def circling : Grammar :=
  { blank "S" false with
    terminals := ⟨["d"], by decide⟩
    rules := ⟨[("S", ⟨[[.nonterminal "A"]], by decide⟩),
      ("A", ⟨[[.nonterminal "C"], [.nonterminal "D"]], by decide⟩),
      ("B", ⟨[[.nonterminal "S"]], by decide⟩),
      ("C", ⟨[[.nonterminal "D"]], by decide⟩),
      ("D", ⟨[[.nonterminal "S"], [.nonterminal "A"], [.nonterminal "B"], [.terminal "d"]],
        by decide⟩)], by decide⟩ }

theorem isRead_circling : circling.IsRead :=
  .text (show Grammar.ofText .compact false none
    "S -> A\nB -> S\nC -> D\nA -> C | D\nD -> S | A | B | d" = .ok _ from rfl)

theorem iterate_unitPass_circling : unitPass^[9 + 3] circling = unitPass^[3] circling := by
  decide +kernel

theorem isPeriodicPt_circling : Function.IsPeriodicPt unitPass 9 (unitPass^[3] circling) :=
  (Function.iterate_add_apply ..).symm.trans iterate_unitPass_circling

theorem units_circling_before (n : Nat) (hn : n < 9 + 3) :
    (unitPass^[n] circling).units.isEmpty = false := by
  revert n
  decide +kernel

theorem units_circling (n : Nat) : (unitPass^[n] circling).units.isEmpty = false := by
  rcases Nat.lt_or_ge n 3 with hn | hn
  · exact units_circling_before n (by omega)
  · obtain ⟨m, rfl⟩ : ∃ m, n = m + 3 := ⟨n - 3, by omega⟩
    rw [Function.iterate_add_apply, ← isPeriodicPt_circling.iterate_mod_apply,
      ← Function.iterate_add_apply]
    exact units_circling_before _ (by omega)

end Grammar

/-- No limit is high enough. -/
theorem Transform.removeUnits_circling :
    Grammar.circling.IsRead ∧ ∀ limit : Int, (removeUnits limit).run Grammar.circling =
      .error (.unitsRemain limit) (Grammar.unitPass^[limit.toNat] Grammar.circling) := by
  refine ⟨Grammar.isRead_circling, fun limit => ?_⟩
  rw [removeUnits_run, if_neg (by simp [Grammar.units_circling])]

end ContextFree
