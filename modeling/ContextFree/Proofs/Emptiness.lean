import ContextFree.Reading.Line
import ContextFree.Proofs.Simplification

/-!
# When simplification finds no word

Whether the start symbol derives a word is asked at the end, by the program that takes the
useless symbols out. By then the empty rules are gone, and the empty word with them: that
it belongs to the language is remembered beside the rules, where the question does not
look. So a grammar that derives the empty word and no other is refused like one that
derives nothing.

That no other grammar with a word is refused needs no invariant of grammars. The first
program loses the empty word only, the second loses nothing, and neither changes the start
symbol; so the question can be put to the grammar as it was at first.
-/

namespace ContextFree

namespace Transform

/-- Taking out the single-nonterminal rules loses no word, and stops for one reason. -/
theorem removeUnits_words (limit : Int) (g : Grammar) :
    Ends ((removeUnits limit).run g) (fun _ g' => ∀ w, g'.Generates w ↔ g.Generates w)
      fun e _ => e = .unitsRemain limit := by
  have hstep : ∀ (g' : Grammar) a b, (∀ w, g'.Generates w ↔ g.Generates w) →
      ∀ w, (g'.inlineUnit a b).Generates w ↔ g.Generates w := by
    intro g' a b h w
    rw [← h w, Grammar.Generates, Grammar.inlineUnit_start, Grammar.derives_inlineUnit_iff]
    exact Iff.rfl
  rw [removeUnits_run]
  split
  · exact Grammar.iterate_unitPass_induct hstep limit.toNat fun _ => Iff.rfl
  · exact rfl

theorem removeUseless_emptyLanguage_iff {g : Grammar} :
    (∃ a g', removeUseless.run g = .error (.emptyLanguage a) g') ↔ ∀ w, ¬ g.Generates w := by
  rw [Grammar.removeUseless_run]
  split
  · next h =>
      obtain ⟨w, hw⟩ := Grammar.terminating_iff.1 h
      refine ⟨fun hstop => ?_, fun hnone => absurd hw (hnone w)⟩
      obtain ⟨a, g', hstop⟩ := hstop
      cases hstop
  · next h =>
      refine ⟨fun _ w hw => h (Grammar.terminating_iff.2 ⟨w, hw⟩), fun _ => ?_⟩
      exact ⟨g.start, g, rfl⟩

/-- Simplification stops for want of words exactly if it comes to that question and the
start symbol derives no word but perhaps the empty one. -/
theorem simplify_emptyLanguage_iff (limit : Int) (g : Grammar) :
    (∃ a g', (simplify limit).run g = .error (.emptyLanguage a) g') ↔
      (∃ g', (removeUnits limit).run g.removeEmptyRules = .ok () g') ∧
        ∀ w, g.Generates w → w = [] := by
  have hrun : (simplify limit).run g =
      (removeUnits limit >>= fun _ => removeUseless).run g.removeEmptyRules := rfl
  have hunits := removeUnits_words limit g.removeEmptyRules
  rw [hrun, EStateM.run_bind]
  cases h : (removeUnits limit).run g.removeEmptyRules with
  | error e g₁ =>
      rw [h] at hunits
      have hreason : e = .unitsRemain limit := hunits
      subst hreason
      refine ⟨fun hstop => ?_, fun hdone => ?_⟩
      · obtain ⟨a, g', hstop⟩ := hstop
        cases hstop
      · obtain ⟨⟨g', hdone⟩, -⟩ := hdone
        cases hdone
  | ok _ g₁ =>
      rw [h] at hunits
      have hwords : ∀ w, g₁.Generates w ↔ g.Generates w ∧ w ≠ [] := fun w =>
        (hunits w).trans Grammar.derives_removeEmptyRules_iff
      refine removeUseless_emptyLanguage_iff.trans ?_
      constructor
      · intro hnone
        exact ⟨⟨g₁, rfl⟩, fun w hw => Decidable.byContradiction fun hne =>
          hnone w ((hwords w).2 ⟨hw, hne⟩)⟩
      · intro hempty w hw
        exact ((hwords w).1 hw).2 (hempty.2 w ((hwords w).1 hw).1)

/-- The empty word is a word, but a grammar with this word only is refused. -/
theorem simplify_refuses_emptyWord :
    ∃ g, Grammar.ofText .compact false none "S -> λ" = .ok g ∧ g.Generates [] ∧
      (∃ g₁, (removeUnits 1000).run g.removeEmptyRules = .ok () g₁) ∧
      ∃ g', (simplify 1000).run g = .error (.emptyLanguage "S") g' := by
  refine ⟨(Grammar.blank "S" false).load "S" [[]], rfl, ?_, ⟨_, rfl⟩, ⟨_, rfl⟩⟩
  exact derives_variable_iff.2 ⟨[], List.mem_singleton.2 rfl, .nil⟩

end Transform

end ContextFree
