import ContextFree.Proofs.FreshLabel

/-!
# Labels are drawn in a fixed order

A grammar has finitely many symbols, so some label of the sequence is free, and the first
free one is what is drawn. With a bound only the letters count, and if none of them is free
nothing can be drawn.

A label that was drawn is free, and once it is registered it is not. Registering a variable
takes no other label from those that are in use, so labels that are drawn later differ from
it, however many are drawn.
-/

namespace ContextFree

namespace Transform

theorem freshLabel_run (g : Grammar) :
    freshLabel.run g = match g.freshLabel? with
      | some label => .ok label g
      | none => .error .labelsExhausted g := by
  rw [freshLabel, EStateM.run_bind, EStateM.run_get]
  dsimp only
  cases g.freshLabel? <;> rfl

/-- Draws a label and registers it as a variable. -/
def drawVariable : Transform String := do
  let label ← freshLabel
  modify fun g => g.addVariable label
  return label

theorem drawVariable_run (g : Grammar) :
    drawVariable.run g = match g.freshLabel? with
      | some label => .ok label (g.addVariable label)
      | none => .error .labelsExhausted g := by
  rw [drawVariable, EStateM.run_bind, freshLabel_run]
  cases g.freshLabel? <;> rfl

end Transform

namespace Grammar

variable {g : Grammar} {a b : String} {count : Nat}

/-- The labels that are drawn and registered one after the other, as many as given unless
they are exhausted before. -/
def drawn : Nat → Grammar → List String
  | 0, _ => []
  | count + 1, g =>
    match Transform.drawVariable.run g with
    | .ok label g' => label :: drawn count g'
    | .error _ _ => []

theorem drawn_of_some (h : g.freshLabel? = some a) :
    g.drawn (count + 1) = a :: (g.addVariable a).drawn count := by
  rw [drawn, Transform.drawVariable_run, h]

theorem drawn_of_none (h : g.freshLabel? = none) : g.drawn (count + 1) = [] := by
  rw [drawn, Transform.drawVariable_run, h]

theorem hasSymbol_addVariable_eq_false_iff :
    (g.addVariable a).hasSymbol b = false ↔ g.hasSymbol b = false ∧ b ≠ a := by
  rw [hasSymbol_eq_false_iff, hasSymbol_eq_false_iff, mem_variableLabels_addVariable]
  show _ ∧ b ∉ g.terminals ↔ _
  tauto

theorem hasSymbol_of_mem_drawn (h : b ∈ g.drawn count) : g.hasSymbol b = false := by
  induction count generalizing g with
  | zero => cases h
  | succ count ih =>
      cases hfresh : g.freshLabel? with
      | none =>
          rw [drawn_of_none hfresh] at h
          cases h
      | some a =>
          rw [drawn_of_some hfresh] at h
          rcases List.mem_cons.1 h with rfl | h
          · exact hasSymbol_of_freshLabel? hfresh
          · exact (hasSymbol_addVariable_eq_false_iff.1 (ih h)).1

theorem nodup_drawn (g : Grammar) (count : Nat) : (g.drawn count).Nodup := by
  induction count generalizing g with
  | zero => exact List.nodup_nil
  | succ count ih =>
      cases hfresh : g.freshLabel? with
      | none =>
          rw [drawn_of_none hfresh]
          exact List.nodup_nil
      | some a =>
          rw [drawn_of_some hfresh, List.nodup_cons]
          exact ⟨fun h => (hasSymbol_addVariable_eq_false_iff.1 (hasSymbol_of_mem_drawn h)).2 rfl,
            ih _⟩

theorem length_drawn (hg : g.bounded = false) : (g.drawn count).length = count := by
  induction count generalizing g with
  | zero => rfl
  | succ count ih =>
      cases hfresh : g.freshLabel? with
      | none =>
          rw [bounded_of_freshLabel? hfresh] at hg
          cases hg
      | some a =>
          rw [drawn_of_some hfresh, List.length_cons, ih (g := g.addVariable a) hg]

/-- Without a bound the first free label of the sequence is drawn. With a bound it is the
first free letter, and drawing fails exactly if all letters are in use. However many labels
are drawn and registered, no label comes twice. -/
theorem freshLabel_first (g : Grammar) :
    (g.bounded = false →
      ∃ n, g.FirstFree n ∧ Transform.freshLabel.run g = .ok (labelAt n) g) ∧
    (g.bounded = true →
      ((∃ a ∈ letterLabels, g.hasSymbol a = false) →
        ∃ n < 26, g.FirstFree n ∧ Transform.freshLabel.run g = .ok (labelAt n) g) ∧
      (Transform.freshLabel.run g = .error .labelsExhausted g ↔
        ∀ a ∈ letterLabels, g.hasSymbol a = true)) ∧
    ∀ count, (g.drawn count).Nodup ∧ (∀ a ∈ g.drawn count, g.hasSymbol a = false) ∧
      (g.bounded = false → (g.drawn count).length = count) := by
  obtain ⟨n, hn⟩ := exists_firstFree g
  have hrun : ¬ (g.bounded = true ∧ 26 ≤ n) → Transform.freshLabel.run g = .ok (labelAt n) g := by
    intro h
    rw [Transform.freshLabel_run, hn.freshLabel?_eq, if_neg h]
  refine ⟨fun hg => ⟨n, hn, hrun (by simp [hg])⟩, fun hg => ?_, fun count =>
    ⟨nodup_drawn g count, fun a => hasSymbol_of_mem_drawn, length_drawn⟩⟩
  by_cases hlt : n < 26
  · have hok := hrun (by omega)
    refine ⟨fun _ => ⟨n, hlt, hn, hok⟩, fun herror => ?_, fun hall => ?_⟩
    · rw [hok] at herror
      cases herror
    · have hfree := hn.free
      rw [labelAt_of_lt hlt, hall _ (List.getElem_mem hlt)] at hfree
      cases hfree
  · have hall : ∀ a ∈ letterLabels, g.hasSymbol a = true := by
      intro a ha
      obtain ⟨m, hm, rfl⟩ := List.getElem_of_mem ha
      rw [← labelAt_of_lt hm]
      exact hn.used m (Nat.lt_of_lt_of_le hm (Nat.le_of_not_lt hlt))
    refine ⟨?_, fun _ => hall, fun _ => ?_⟩
    · rintro ⟨a, ha, hfree⟩
      rw [hall a ha] at hfree
      cases hfree
    · rw [Transform.freshLabel_run, hn.freshLabel?_eq, if_pos ⟨hg, Nat.le_of_not_lt hlt⟩]

end Grammar

end ContextFree
