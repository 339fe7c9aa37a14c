import ContextFree.NormalForm.Conversion
import ContextFree.Proofs.FreshLabel
import ContextFree.Proofs.Simplification

/-!
# A start symbol of its own

A new start symbol is a label that no symbol has, with the old start symbol as
its one rule. Since the label was not in use, no rule mentions it: the old
variables cannot tell the difference, and the new one derives exactly what the
old start symbol does.

That no rule mentions the label needs the grammar to be closed. A rule may not
mention a variable that is not registered, or else the new start symbol could
capture it.
-/

namespace ContextFree

namespace Grammar

variable {g : Grammar} {a b : String} {rhs r : Rhs} {w : Word}

/-- The grammar with a new start symbol in front. -/
def withStart (g : Grammar) (label : String) : Grammar :=
  { g with
    start := label
    rules := g.rules.insertFirst label (.singleton [.nonterminal g.start]) }

theorem variableLabels_withStart (h : a ∉ g.variableLabels) :
    (g.withStart a).variableLabels = a :: g.variableLabels :=
  (OrderedMap.keys_insertFirst ..).trans (if_neg h)

theorem rulesOf_withStart (h : a ∉ g.variableLabels) :
    (g.withStart a).rulesOf b = if b = a then [[.nonterminal g.start]] else g.rulesOf b := by
  unfold rulesOf ruleSet
  show ((g.rules.insertFirst _ _).get? b |>.getD .empty).toList = _
  rw [OrderedMap.get?_insertFirst]
  by_cases e : b = a
  · rw [if_pos ⟨e, h⟩, if_pos e]
    rfl
  · rw [if_neg fun h => e h.1, if_neg e]

theorem uses_withStart_iff {s : Symbol} (h : a ∉ g.variableLabels) :
    (g.withStart a).Uses s ↔ s = .nonterminal g.start ∨ g.Uses s := by
  refine ⟨fun hu => ?_, fun hu => ?_⟩
  · obtain ⟨b, rhs, hr, hs⟩ := hu
    rw [rulesOf_withStart h] at hr
    split at hr
    · rw [List.mem_singleton.1 hr] at hs
      exact Or.inl (List.mem_singleton.1 hs)
    · exact Or.inr (.intro hr hs)
  · rcases hu with rfl | ⟨b, rhs, hr, hs⟩
    · have hrule : [.nonterminal g.start] ∈ (g.withStart a).rulesOf a := by
        rw [rulesOf_withStart h, if_pos rfl]
        exact List.mem_cons_self
      exact .intro hrule List.mem_cons_self
    · have hb : b ≠ a := fun e => h (e ▸ mem_variableLabels_of_mem hr)
      have hrule : rhs ∈ (g.withStart a).rulesOf b := by rwa [rulesOf_withStart h, if_neg hb]
      exact .intro hrule hs

theorem WellFormed.withStart (hg : g.WellFormed) (h : a ∉ g.variableLabels) :
    (g.withStart a).WellFormed where
  start_mem := by
    rw [variableLabels_withStart h]
    exact List.mem_cons_self
  closed := by
    intro b hb
    rw [variableLabels_withStart h]
    rcases (uses_withStart_iff h).1 hb with e | hb
    · cases e
      exact List.mem_cons_of_mem _ hg.start_mem
    · exact List.mem_cons_of_mem _ (hg.closed b hb)
  terminal_mem := by
    intro t ht
    rcases (uses_withStart_iff h).1 ht with e | ht
    · cases e
    · exact hg.terminal_mem t ht

theorem startUnused_withStart (hg : g.WellFormed) (h : a ∉ g.variableLabels) :
    (g.withStart a).StartUnused := by
  intro hu
  rcases (uses_withStart_iff h).1 hu with e | hu
  · have e : a = g.start := by injection e
    exact h (e ▸ hg.start_mem)
  · exact h (hg.closed a hu)

theorem derives_withStart_iff (hg : g.WellFormed) (h : a ∉ g.variableLabels)
    (hrhs : .nonterminal a ∉ rhs) : Derives (g.withStart a) rhs w ↔ Derives g rhs w := by
  refine derives_congr (p := fun b => b ≠ a) (fun b hb => ?_) ?_ ?_
  · rw [rulesOf_withStart h, if_neg hb]
  · intro b _ rhs hr c hc e
    exact h (e ▸ hg.closed.mem hr hc)
  · intro b hb e
    exact hrhs (e ▸ hb)

theorem generates_withStart_iff (hg : g.WellFormed) (h : a ∉ g.variableLabels) :
    (g.withStart a).Generates w ↔ g.Generates w := by
  have hne : Symbol.nonterminal a ∉ [Symbol.nonterminal g.start] := by
    intro hm
    have e : a = g.start := by injection List.mem_singleton.1 hm
    exact h (e ▸ hg.start_mem)
  show Derives (g.withStart a) [.nonterminal a] w ↔ _
  rw [derives_variable_iff, rulesOf_withStart h, if_pos rfl]
  simp only [List.mem_singleton, exists_eq_left]
  exact derives_withStart_iff hg h hne

theorem accepts_withStart_iff (hg : g.WellFormed) (h : a ∉ g.variableLabels) :
    (g.withStart a).Accepts w ↔ g.Accepts w :=
  or_congr (generates_withStart_iff hg h) Iff.rfl

end Grammar

namespace Transform

variable {g : Grammar} {label : String}

theorem replaceStart_run (g : Grammar) (label : String) :
    (replaceStart label).run g =
      if g.hasSymbol label then .error (.duplicateSymbol label) g
      else .ok () (g.withStart label) := by
  unfold replaceStart
  rw [EStateM.run_bind, EStateM.run_get]
  cases h : g.hasSymbol label
  · simp [h, Grammar.withStart]
  · simp [h]

/-- A start symbol that was in use already changes nothing. -/
theorem replaceStart_ends (g : Grammar) (label : String) :
    Ends ((replaceStart label).run g)
      (fun _ g' => label ∉ g.variableLabels ∧ g' = g.withStart label) fun _ g' => g' = g := by
  rw [replaceStart_run]
  split
  · exact rfl
  · next h =>
      rw [Bool.not_eq_true] at h
      exact ⟨(Grammar.hasSymbol_eq_false_iff.1 h).1, rfl⟩

theorem freshLabel_ends (g : Grammar) :
    Ends (freshLabel.run g) (fun _ g' => g' = g) fun _ g' => g' = g := by
  rw [freshLabel, ends_get_bind]
  split
  · exact rfl
  · exact rfl

/-- Afterwards no rule mentions the start symbol; if there is no label for a new
one, the grammar is as before. -/
theorem isolateStart_ends (newStart : Option String) (hg : g.WellFormed) :
    Ends ((isolateStart newStart).run g)
      (fun _ g' => g'.WellFormed ∧ g'.StartUnused ∧ ∀ w, g'.Accepts w ↔ g.Accepts w)
      fun _ g' => g' = g := by
  have hreplace : ∀ label, Ends ((replaceStart label).run g)
      (fun _ g' => g'.WellFormed ∧ g'.StartUnused ∧ ∀ w, g'.Accepts w ↔ g.Accepts w)
      fun _ g' => g' = g := by
    intro label
    refine (replaceStart_ends g label).imp ?_ fun _ _ h => h
    intro _ g' hend
    obtain ⟨h, rfl⟩ := hend
    exact ⟨hg.withStart h, Grammar.startUnused_withStart hg h,
      fun _ => Grammar.accepts_withStart_iff hg h⟩
  rw [isolateStart, ends_get_bind]
  split
  · split
    · exact hreplace _
    · rw [ends_bind]
      refine (freshLabel_ends g).imp ?_ fun _ _ h => h
      intro label g' hend
      obtain rfl := hend
      exact hreplace label
  · next h =>
      rw [Bool.not_eq_true] at h
      exact ⟨hg, Grammar.startIsMentioned_eq_false_iff.1 h, fun _ => Iff.rfl⟩

end Transform

end ContextFree
