import ContextFree.Proofs.Derivation

/-!
# Derivations by rewriting

The usual account of derivation puts steps one after another: in each, one
occurrence of a variable gives way to one of its rules, and a word is derived
when only its terminals are left. `Derives` leaves the order of the steps out.
This file proves that nothing is lost by it: the words are the same.

From trees to steps, a sequence is rewritten part by part, each part within what
stands around it. From steps to trees the last step comes first: what the rule
derives in its place, the variable derives.
-/

namespace ContextFree

variable {g : Grammar} {r s t : Rhs} {u w : Word}

/-- A sequence becomes another one when variables give way to their rules, one
occurrence at a time. -/
inductive Becomes (g : Grammar) : Rhs → Rhs → Prop where
  | refl {r : Rhs} : Becomes g r r
  | step {pre post rhs s : Rhs} {label : String} :
      rhs ∈ g.rulesOf label → Becomes g (pre ++ rhs ++ post) s →
      Becomes g (pre ++ [.nonterminal label] ++ post) s

namespace Becomes

theorem trans (h : Becomes g r s) (h' : Becomes g s t) : Becomes g r t := by
  induction h with
  | refl => exact h'
  | step hr _ ih => exact .step hr (ih h')

theorem context (h : Becomes g r s) (pre post : Rhs) :
    Becomes g (pre ++ r ++ post) (pre ++ s ++ post) := by
  induction h with
  | refl => exact .refl
  | @step pre' post' rhs s label hr _ ih =>
      have hnext : Becomes g ((pre ++ pre') ++ rhs ++ (post' ++ post)) (pre ++ s ++ post) := by
        simpa only [List.append_assoc] using ih
      simpa only [List.append_assoc] using Becomes.step hr hnext

end Becomes

theorem derives_map_terminal (w : Word) : Derives g (w.map .terminal) w := by
  induction w with
  | nil => exact .nil
  | cons a w ih => exact .terminal ih

/-- Trees and steps derive the same words. -/
theorem derives_iff_becomes : Derives g r w ↔ Becomes g r (w.map .terminal) := by
  refine ⟨fun d => ?_, fun h => ?_⟩
  · induction d with
    | nil => exact .refl
    | @terminal a rest w _ ih =>
        have hrest := ih.context [.terminal a] []
        rwa [List.append_nil, List.append_nil] at hrest
    | @nonterminal label rhs rest u v hr _ _ ihu ihv =>
        have hrule : Becomes g ([] ++ rhs ++ rest) (u.map .terminal ++ rest) := ihu.context [] rest
        have hrest : Becomes g (u.map .terminal ++ rest) (u.map .terminal ++ v.map .terminal) := by
          simpa only [List.append_nil] using ihv.context (u.map .terminal) []
        rw [List.map_append]
        exact .step hr (hrule.trans hrest)
  · generalize hs : w.map Symbol.terminal = s at h
    induction h with
    | refl => exact hs ▸ derives_map_terminal w
    | @step pre post rhs s label hr _ ih =>
        obtain ⟨u, v, rfl, du, dv⟩ := derives_append_iff.1 (ih hs)
        obtain ⟨u₁, u₂, rfl, d₁, d₂⟩ := derives_append_iff.1 du
        exact (d₁.append (derives_variable_iff.2 ⟨rhs, hr, d₂⟩)).append dv

theorem Becomes.derives (h : Becomes g r s) (d : Derives g s w) : Derives g r w :=
  derives_iff_becomes.2 (h.trans (derives_iff_becomes.1 d))

theorem Grammar.generates_iff_becomes :
    g.Generates w ↔ Becomes g [.nonterminal g.start] (w.map .terminal) :=
  derives_iff_becomes

end ContextFree
