import ContextFree.Proofs.Conversion
import ContextFree.Proofs.Enumeration
import ContextFree.Proofs.Reading
import ContextFree.Proofs.Recognition

/-!
# From a grammar that was read to its recognizer

Two results close the circle from a reader to recognition. The first is the shape
of a converted grammar: it is in normal form, its start symbol stands in no rule,
and nothing in it is useless. The second is that recognition with the converted
grammar decides the language of the grammar that was read, and so agrees with
enumeration, which works on that grammar itself and knows nothing of normal forms.

Neither asks how the conversion went, only that it returned. The empty word needs no
extra treatment here: a converted grammar derives it through no rule, but it
accepts it if the flag is set, and that is what recognition looks at.
-/

namespace ContextFree

variable {g g' : Grammar} {L : Word → Prop}

theorem shape_of_toNormalForm (hg : g.IsRead) (newStart : Option String) (limit : Int)
    (h : (Transform.toNormalForm newStart limit).run g = .ok () g') :
    g'.isNormal = true ∧
      (∀ a, ∀ rhs ∈ g'.rulesOf a, .nonterminal g'.start ∉ rhs) ∧
      (∀ a ∈ g'.variableLabels, g'.Reaches g'.start a ∧ ∃ w, Derives g' [.nonterminal a] w) ∧
      (∀ a, ∀ rhs ∈ g'.rulesOf a, ∀ b, .nonterminal b ∈ rhs → b ∈ g'.variableLabels) ∧
      (∀ t, t ∈ g'.terminals ↔ ∃ a, ∃ rhs ∈ g'.rulesOf a, .terminal t ∈ rhs) ∧
      g'.productions.Nodup := by
  obtain ⟨hc, -⟩ := (Transform.toNormalForm_ends newStart limit hg.wellFormed
    fun _ => Iff.rfl).of_ok h
  refine ⟨hc.isNormal, ?_, ?_, ?_, ?_, Grammar.nodup_productions g'⟩
  · intro a rhs hr hs
    exact hc.startUnused (.intro hr hs)
  · intro a ha
    exact ⟨hc.trim.reaches a ha, hc.trim.derives a ha⟩
  · intro a rhs hr b hb
    exact hc.trim.wellFormed.closed.mem hr hb
  · intro t
    exact ⟨hc.trim.uses t, hc.trim.wellFormed.terminal_mem t⟩

theorem shape_of_matchedLetters :
    ∃ g', (Transform.toNormalForm none 10).run Grammar.matchedLetters = .ok () g' ∧
      g'.isNormal = true ∧
      (∀ a, ∀ rhs ∈ g'.rulesOf a, .nonterminal g'.start ∉ rhs) ∧
      (∀ a ∈ g'.variableLabels, g'.Reaches g'.start a ∧ ∃ w, Derives g' [.nonterminal a] w) ∧
      (∀ a, ∀ rhs ∈ g'.rulesOf a, ∀ b, .nonterminal b ∈ rhs → b ∈ g'.variableLabels) ∧
      (∀ t, t ∈ g'.terminals ↔ ∃ a, ∃ rhs ∈ g'.rulesOf a, .terminal t ∈ rhs) ∧
      g'.productions.Nodup := by
  obtain ⟨g', h⟩ : ∃ g', (Transform.toNormalForm none 10).run Grammar.matchedLetters = .ok () g' :=
    ⟨_, rfl⟩
  exact ⟨g', h, shape_of_toNormalForm Grammar.isRead_matchedLetters none 10 h⟩

/-- Conversion of a grammar, on its own or after simplification. -/
def ConvertsTo (g g' : Grammar) : Prop :=
  ∃ newStart limit, (Transform.toNormalForm newStart limit).run g = .ok () g' ∨
    ∃ limit₀, (do Transform.simplify limit₀; Transform.toNormalForm newStart limit).run g = .ok () g'

theorem ConvertsTo.converted (h : ConvertsTo g g') (hg : g.WellFormed) :
    g'.Converted ∧ ∀ w, g'.Accepts w ↔ g.Accepts w := by
  obtain ⟨newStart, limit, h | ⟨limit₀, h⟩⟩ := h
  · exact (Transform.toNormalForm_ends newStart limit hg fun _ => Iff.rfl).of_ok h
  · have hends : Ends ((do Transform.simplify limit₀; Transform.toNormalForm newStart limit).run g)
        (fun _ g' => g'.Converted ∧ ∀ w, g'.Accepts w ↔ g.Accepts w) fun _ _ => True := by
      rw [ends_bind]
      refine (Transform.simplify_ends (kept_accepts g.Accepts) limit₀ hg fun _ => Iff.rfl).imp ?_
        fun _ _ _ => trivial
      intro _ g₁ hend
      obtain ⟨hg₁, hL₁⟩ := hend
      exact (Transform.toNormalForm_ends newStart limit hg₁.trim.wellFormed hL₁).imp
        (fun _ _ h => h) fun _ _ _ => trivial
    exact hends.of_ok h

/-- Recognition with the converted grammar decides what the grammar that was read
derives, and agrees with enumeration. -/
theorem recognize_of_convertsTo (hg : g.IsRead) (h : ConvertsTo g g') (w : Word) :
    ∃ r, g'.recognize w = .ok r ∧ (r.accepted = true ↔ g.Generates w) ∧
      r.accepted = g.derivesWord w := by
  obtain ⟨hc, hL⟩ := h.converted hg.wellFormed
  obtain ⟨r, hr, hr'⟩ := exists_recognize_eq_ok hc.isNormal hc.trim.wellFormed.closed w
  have hgen : r.accepted = true ↔ g.Generates w := (hr'.trans (hL w)).trans hg.accepts_iff
  exact ⟨r, hr, hgen, Bool.eq_iff_iff.2 (hgen.trans Grammar.derivesWord_iff.symm)⟩

theorem recognize_matchedLetters :
    ∃ g', ConvertsTo Grammar.matchedLetters g' ∧ ∃ r, g'.recognize ["a", "a", "b", "b"] = .ok r ∧
      (r.accepted = true ↔ Grammar.matchedLetters.Generates ["a", "a", "b", "b"]) ∧
      r.accepted = Grammar.matchedLetters.derivesWord ["a", "a", "b", "b"] := by
  obtain ⟨g', h⟩ : ∃ g', (Transform.toNormalForm none 10).run Grammar.matchedLetters = .ok () g' :=
    ⟨_, rfl⟩
  exact ⟨g', ⟨none, 10, Or.inl h⟩,
    recognize_of_convertsTo Grammar.isRead_matchedLetters ⟨none, 10, Or.inl h⟩ _⟩

end ContextFree
