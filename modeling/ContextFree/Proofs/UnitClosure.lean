import ContextFree.Proofs.UnitRules
import Mathlib.Logic.Relation

/-!
# The closure under single-nonterminal rules

A rule `A -> B` lends `A` the rules of `B`, and what `B` borrows in turn. What a
variable owns or borrows, apart from single nonterminals, is a set of right-hand
sides that the table of rules fixes once and for all: `Borrows`. Taking the
single-nonterminal rules out has to turn exactly this set into the rules that the
variable owns.

The steps get there by deleting rules of which others still make use. What makes
that safe is that a step takes nothing out of the closure of any variable. A path
that used `A -> B` goes on from `B`, and `A` can follow it from there by a rule it
was given, unless the path came back to `A` or to `B`: in the first case nothing
of it was needed before that point, and in the second it is shortened and goes on
from `B` once more. So the closures are the same after every step, and with them
at the end of every run, also of one that stopped at the limit.
-/

namespace ContextFree

namespace Grammar

variable {g : Grammar} {a b c d : String} {r : Rhs}

/-- The first variable has the second one as a rule. -/
def UnitStep (g : Grammar) (a b : String) : Prop := [.nonterminal b] ∈ g.rulesOf a

/-- Single-nonterminal rules, none or more of them, lead from the first variable to
the second. -/
abbrev UnitReaches (g : Grammar) : String → String → Prop := Relation.ReflTransGen g.UnitStep

/-- A variable to which single-nonterminal rules lead has the right-hand side, which
is not a single nonterminal itself. -/
def Borrows (g : Grammar) (a : String) (r : Rhs) : Prop :=
  (∀ c, r ≠ [.nonterminal c]) ∧ ∃ b, g.UnitReaches a b ∧ r ∈ g.rulesOf b

theorem unitStep_inlineUnit_iff (h : g.UnitStep a b) :
    (g.inlineUnit a b).UnitStep c d ↔
      if c = a then (g.UnitStep a d ∨ g.UnitStep b d ∧ d ≠ a) ∧ d ≠ b else g.UnitStep c d := by
  unfold UnitStep
  rw [mem_rulesOf_inlineUnit h]
  simp

theorem unitReaches_of_inlineUnit (h : (g.inlineUnit a b).UnitReaches c d) :
    g.UnitReaches c d := by
  by_cases hu : g.UnitStep a b
  · induction h with
    | refl => exact .refl
    | tail _ hstep ih =>
        refine ih.trans ?_
        rw [unitStep_inlineUnit_iff hu] at hstep
        split at hstep
        · next e =>
            subst e
            rcases hstep.1 with hstep | hstep
            · exact .single hstep
            · exact .head hu (.single hstep.1)
        · exact .single hstep
  · rwa [inlineUnit_of_not_mem hu] at h

theorem borrows_of_inlineUnit (h : (g.inlineUnit a b).Borrows c r) : g.Borrows c r := by
  by_cases hu : g.UnitStep a b
  · obtain ⟨hr, d, hpath, hmem⟩ := h
    have hreach : g.UnitReaches c d := unitReaches_of_inlineUnit hpath
    rw [mem_rulesOf_inlineUnit hu] at hmem
    split at hmem
    · next e =>
        subst e
        rcases hmem.1 with hmem | hmem
        · exact ⟨hr, d, hreach, hmem⟩
        · exact ⟨hr, b, hreach.tail hu, hmem.1⟩
    · exact ⟨hr, d, hreach, hmem⟩
  · rwa [inlineUnit_of_not_mem hu] at h

/-- Where the target of the rule that was replaced led to, its owner leads to now,
apart from the target itself. -/
theorem unitReaches_inlineUnit_owner (hu : g.UnitStep a b) (hne : b ≠ a)
    (h : (g.inlineUnit a b).UnitReaches b d) : (g.inlineUnit a b).UnitReaches a d ∨ d = b := by
  induction h with
  | refl => exact Or.inr rfl
  | @tail c d _ hstep ih =>
      rcases ih with ih | rfl
      · exact Or.inl (ih.tail hstep)
      · by_cases hda : d = a
        · exact Or.inl (hda ▸ .refl)
        · by_cases hdc : d = c
          · exact Or.inr hdc
          · refine Or.inl (.single ?_)
            rw [unitStep_inlineUnit_iff hu, if_neg hne] at hstep
            rw [unitStep_inlineUnit_iff hu, if_pos rfl]
            exact ⟨Or.inr ⟨hstep, hda⟩, hdc⟩

theorem borrows_inlineUnit_owner (hu : g.UnitStep a b) (h : (g.inlineUnit a b).Borrows b r) :
    (g.inlineUnit a b).Borrows a r := by
  by_cases hne : b = a
  · exact hne ▸ h
  · obtain ⟨hr, d, hreach, hmem⟩ := h
    rcases unitReaches_inlineUnit_owner hu hne hreach with hreach | rfl
    · exact ⟨hr, d, hreach, hmem⟩
    · refine ⟨hr, a, .refl, ?_⟩
      rw [mem_rulesOf_inlineUnit hu, if_neg hne] at hmem
      rw [mem_rulesOf_inlineUnit hu, if_pos rfl]
      exact ⟨Or.inr ⟨hmem, hr a⟩, hr d⟩

theorem borrows_inlineUnit (h : g.Borrows c r) : (g.inlineUnit a b).Borrows c r := by
  by_cases hu : g.UnitStep a b
  · obtain ⟨hr, d, hreach, hmem⟩ := h
    -- the path is followed from its end, where the right-hand side is owned
    induction hreach using Relation.ReflTransGen.head_induction_on with
    | refl =>
        refine ⟨hr, d, .refl, (mem_rulesOf_inlineUnit hu).2 ?_⟩
        split
        · next e => exact ⟨Or.inl (e ▸ hmem), hr b⟩
        · exact hmem
    | @head c e hstep _ ih =>
        by_cases hunit : c = a ∧ e = b
        · obtain ⟨rfl, rfl⟩ := hunit
          exact borrows_inlineUnit_owner hu ih
        · have hstep' : (g.inlineUnit a b).UnitStep c e := by
            rw [unitStep_inlineUnit_iff hu]
            split
            · next hc => exact ⟨Or.inl (hc ▸ hstep), fun he => hunit ⟨hc, he⟩⟩
            · exact hstep
          obtain ⟨-, f, hreach, hmem⟩ := ih
          exact ⟨hr, f, hreach.head hstep', hmem⟩
  · rwa [inlineUnit_of_not_mem hu]

theorem borrows_inlineUnit_iff : (g.inlineUnit a b).Borrows c r ↔ g.Borrows c r :=
  ⟨borrows_of_inlineUnit, borrows_inlineUnit⟩

/-- Without single-nonterminal rules nothing is borrowed. -/
theorem borrows_iff_of_no_unit (h : ∀ a b, [.nonterminal b] ∉ g.rulesOf a) :
    g.Borrows a r ↔ r ∈ g.rulesOf a := by
  constructor
  · intro hb
    obtain ⟨-, b, hreach, hr⟩ := hb
    rcases hreach.cases_head with rfl | ⟨c, hstep, -⟩
    · exact hr
    · exact absurd hstep (h a c)
  · intro hr
    exact ⟨fun c hc => h a c (hc ▸ hr), a, .refl, hr⟩

end Grammar

/-- A run keeps what every variable owns and borrows. If it returned, this is what
the variable owns, and if not, some single nonterminal is left. -/
theorem Transform.removeUnits_closure (limit : Int) (g : Grammar) :
    Ends ((removeUnits limit).run g)
      (fun _ g' => g'.variableLabels = g.variableLabels ∧
        (∀ a r, g'.Borrows a r ↔ g.Borrows a r) ∧
        (∀ a b, [.nonterminal b] ∉ g'.rulesOf a) ∧
        ∀ a r, r ∈ g'.rulesOf a ↔ g.Borrows a r)
      fun e g' => g'.variableLabels = g.variableLabels ∧
        (∀ a r, g'.Borrows a r ↔ g.Borrows a r) ∧
        e = .unitsRemain limit ∧ ∃ a b, [.nonterminal b] ∈ g'.rulesOf a := by
  have hkeep : ∀ n, (Grammar.unitPass^[n] g).variableLabels = g.variableLabels ∧
      ∀ a r, (Grammar.unitPass^[n] g).Borrows a r ↔ g.Borrows a r := by
    refine fun n => Grammar.iterate_unitPass_induct (P := fun h =>
      h.variableLabels = g.variableLabels ∧ ∀ a r, h.Borrows a r ↔ g.Borrows a r)
      (fun h a b ih => ?_) n ⟨rfl, fun _ _ => Iff.rfl⟩
    rw [Grammar.variableLabels_inlineUnit]
    exact ⟨ih.1, fun c r => Grammar.borrows_inlineUnit_iff.trans (ih.2 c r)⟩
  obtain ⟨hvars, hborrows⟩ := hkeep limit.toNat
  rw [removeUnits_run]
  split
  · next h =>
      have hnone := Grammar.units_isEmpty_iff.1 h
      refine ⟨hvars, hborrows, hnone, fun a r => ?_⟩
      rw [← hborrows, Grammar.borrows_iff_of_no_unit hnone]
  · next h =>
      refine ⟨hvars, hborrows, rfl, ?_⟩
      rw [Grammar.units_isEmpty_iff] at h
      simpa using h

end ContextFree
