import ContextFree.Proofs.FixedPoints
import ContextFree.Proofs.Labels
import ContextFree.Proofs.Recognition
import ContextFree.Proofs.Usefulness

/-!
# Terminals of a grammar that was processed

Simplification and conversion bring new variables, and rules that nobody wrote, but no
terminals. To see it there is no need to follow what the programs do with a rule. What
they return is trim, so every rule is applied in the derivation of some word, its terminals
stand in that word, and the word was generated before.
-/

namespace ContextFree.Grammar

variable {g g' : Grammar} {a t : String} {s : Symbol} {rhs : Rhs} {w : Word}

/-- What simplification and conversion make of a grammar, in any order and as often as they
return. -/
inductive Processed (g : Grammar) : Grammar → Prop where
  | refl : Processed g g
  | simplify {limit : Int} {g' g'' : Grammar} : Processed g g' →
      (Transform.simplify limit).run g' = .ok () g'' → Processed g g''
  | toNormalForm {newStart : Option String} {limit : Int} {g' g'' : Grammar} : Processed g g' →
      (Transform.toNormalForm newStart limit).run g' = .ok () g'' → Processed g g''

theorem mem_of_derives (d : Derives g rhs w) (ht : .terminal t ∈ rhs) : t ∈ w := by
  obtain ⟨l, m, rfl⟩ := List.append_of_mem ht
  obtain ⟨u, _, rfl, -, d⟩ := derives_append_iff.1 d
  obtain ⟨v, rfl, -⟩ := derives_terminal_cons_iff.1 d
  simp

theorem Trim.uses_of_accepts (hg : g'.Trim) (hL : ∀ w, g'.Accepts w → g.Accepts w)
    (h : g'.Uses (.terminal t)) : g.Uses (.terminal t) := by
  obtain ⟨a, rhs, hr, hs⟩ := h
  have happlied : g'.Applied ⟨a, rhs⟩ := by
    rw [applied_iff hg.wellFormed.closed, hg.usefulPart_eq_self]
    exact hr
  obtain ⟨-, pre, post, w, hstart, hword⟩ := happlied
  have hgenerates : g'.Generates w := derives_iff_becomes.2 (hstart.trans (.step hr hword))
  have ht : t ∈ w := mem_of_derives (derives_iff_becomes.2 hword) (by simp [hs])
  rcases hL w (Or.inl hgenerates) with hw | ⟨rfl, -⟩
  · exact (Derives.mem_or_uses hw ht).resolve_left (by simp)
  · cases ht

/-- Processing keeps that the grammar is well-formed and uses no terminal that was not used. -/
theorem Processed.uses (hg : g.WellFormed) (h : g.Processed g') :
    g'.WellFormed ∧ ∀ t, g'.Uses (.terminal t) → g.Uses (.terminal t) := by
  induction h with
  | refl => exact ⟨hg, fun _ h => h⟩
  | @simplify limit g' g'' _ hrun ih =>
      obtain ⟨hs, hL⟩ := (Transform.simplify_ends (kept_accepts g'.Accepts) limit ih.1
        fun _ => Iff.rfl).of_ok hrun
      exact ⟨hs.trim.wellFormed, fun t h => ih.2 t (hs.trim.uses_of_accepts (fun w => (hL w).1) h)⟩
  | @toNormalForm newStart limit g' g'' _ hrun ih =>
      obtain ⟨hc, hL⟩ := (Transform.toNormalForm_ends newStart limit ih.1
        fun _ => Iff.rfl).of_ok hrun
      exact ⟨hc.trim.wellFormed, fun t h => ih.2 t (hc.trim.uses_of_accepts (fun w => (hL w).1) h)⟩

/-- The labels of a grammar that was read and processed fit their kinds if those of the
variables do. -/
theorem Processed.fitsLabel (hg : g.IsRead) (h : g.Processed g')
    (hcapital : ∀ a ∈ g'.variableLabels, isVariableLabel a = true) (hs : g'.Uses s) :
    s.FitsLabel := by
  obtain ⟨hwf, huses⟩ := h.uses hg.wellFormed
  cases s with
  | terminal t =>
      exact hg.conventional.fitsLabel (.terminal t) (hg.wellFormed.terminal_mem t (huses t hs))
  | nonterminal a => exact hcapital a (hwf.closed a hs)

end ContextFree.Grammar
