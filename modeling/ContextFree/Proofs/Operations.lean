import ContextFree.Proofs.Conversion
import ContextFree.Proofs.Reading

/-!
# Sequences of operations

A grammar that was read is changed in place, and what is done to it comes in any
order. An operation that stops on its way leaves the grammar in the middle of its
work, and the next operation goes on from there. So there is no grammar of which
one may assume that it was simplified, or that conversion went through: what
every operation has to keep must hold of the grammar at every moment.

It is enough to keep that the grammar is well-formed and accepts the same words.
Each operation keeps both, whichever way it ends, and the sequence follows by
induction.
-/

namespace ContextFree

/-- Something to be done to a grammar in place. -/
inductive Operation where
  /-- Take the empty rules out. -/
  | removeEmptyRules
  /-- Take the single-nonterminal rules out in a limited number of passes. -/
  | removeUnits (limit : Int)
  /-- Take the useless symbols out. -/
  | removeUseless
  /-- Do the three after each other. -/
  | simplify (limit : Int)
  /-- Bring the grammar into normal form. -/
  | toNormalForm (newStart : Option String) (limit : Int)
  /-- Make a new variable the start symbol. -/
  | replaceStart (label : String)

namespace Operation

/-- The program that carries an operation out. -/
def program : Operation → Transform Unit
  | .removeEmptyRules => Transform.removeEmptyRules
  | .removeUnits limit => Transform.removeUnits limit
  | .removeUseless => Transform.removeUseless
  | .simplify limit => Transform.simplify limit
  | .toNormalForm newStart limit => Transform.toNormalForm newStart limit
  | .replaceStart label => Transform.replaceStart label

/-- The grammar that an operation leaves, whether it returned or stopped. -/
def apply (op : Operation) (g : Grammar) : Grammar := finalState (op.program.run g)

end Operation

/-- The grammars after each of a sequence of operations. -/
def Grammar.states (g : Grammar) : List Operation → List Grammar
  | [] => []
  | op :: ops => op.apply g :: (op.apply g).states ops

variable {g : Grammar} {L : Word → Prop}

theorem Operation.apply_keeps (op : Operation) (hg : g.WellFormed)
    (hL : ∀ w, g.Accepts w ↔ L w) :
    (op.apply g).WellFormed ∧ ∀ w, (op.apply g).Accepts w ↔ L w := by
  have hends : Ends (op.program.run g) (fun _ g' => g'.WellFormed ∧ ∀ w, g'.Accepts w ↔ L w)
      fun _ g' => g'.WellFormed ∧ ∀ w, g'.Accepts w ↔ L w := by
    cases op with
    | removeEmptyRules =>
        exact (Transform.removeEmptyRules_ends (kept_accepts L) hg hL).imp
          (fun _ _ h => ⟨h.1, h.2.1⟩) fun _ _ h => h.elim
    | removeUnits limit => exact Transform.removeUnits_kept (kept_accepts L) limit hg hL
    | removeUseless => exact Transform.removeUseless_kept (kept_accepts L) hg hL
    | simplify limit =>
        exact (Transform.simplify_ends (kept_accepts L) limit hg hL).imp
          (fun _ _ h => ⟨h.1.trim.wellFormed, h.2⟩) fun _ _ h => h
    | toNormalForm newStart limit =>
        exact (Transform.toNormalForm_ends newStart limit hg hL).imp
          (fun _ _ h => ⟨h.1.trim.wellFormed, h.2⟩) fun _ _ h => h
    | replaceStart label =>
        refine (Transform.replaceStart_ends g label).imp ?_ ?_
        · intro _ g' hend
          obtain ⟨hnew, rfl⟩ := hend
          exact ⟨hg.withStart hnew, fun w => (Grammar.accepts_withStart_iff hg hnew).trans (hL w)⟩
        · intro _ g' hend
          obtain rfl := hend
          exact ⟨hg, hL⟩
  exact hends.finalState

theorem states_keep (ops : List Operation) (hg : g.WellFormed) (hL : ∀ w, g.Accepts w ↔ L w) :
    ∀ g' ∈ g.states ops, g'.WellFormed ∧ ∀ w, g'.Accepts w ↔ L w := by
  induction ops generalizing g with
  | nil => exact fun g' h => nomatch h
  | cons op ops ih =>
      obtain ⟨hg₁, hL₁⟩ := op.apply_keeps hg hL
      intro g' hg'
      rcases List.mem_cons.1 hg' with rfl | hg'
      · exact ⟨hg₁, hL₁⟩
      · exact ih hg₁ hL₁ g' hg'

/-- After every operation the grammar accepts what the grammar that was read
generates, and the start symbol and all variables in rules are registered. -/
theorem language_of_states (hg : g.IsRead) (ops : List Operation) :
    ∀ g' ∈ g.states ops, (∀ w, g'.Accepts w ↔ g.Generates w) ∧ g'.Closed ∧
      g'.start ∈ g'.variableLabels := by
  intro g' hg'
  obtain ⟨hwf, hL⟩ := states_keep (L := g.Generates) ops hg.wellFormed (fun _ => hg.accepts_iff)
    g' hg'
  exact ⟨hL, hwf.closed, hwf.start_mem⟩

theorem language_of_states_matchedLetters :
    Grammar.matchedLetters.IsRead ∧
      ∀ g' ∈ Grammar.matchedLetters.states [.removeUnits 0, .replaceStart "S",
          .toNormalForm (some "T") 10, .replaceStart "U", .simplify 0],
        (∀ w, g'.Accepts w ↔ Grammar.matchedLetters.Generates w) ∧ g'.Closed ∧
          g'.start ∈ g'.variableLabels :=
  ⟨Grammar.isRead_matchedLetters, language_of_states Grammar.isRead_matchedLetters _⟩

end ContextFree
