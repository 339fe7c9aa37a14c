import ContextFree.Proofs.EmptyWord
import ContextFree.Proofs.SampledTrees

/-!
# Trees of the empty word

That a variable derives the empty word is shown by a tree whose nodes are all expanded into
variables, down to nodes expanded into nothing. If the initial start symbol is set apart, it
may still stand in such a tree, but only as a node expanded into nothing: it is nullable if
it has an empty rule, and other variables may become nullable with its help, yet it does not
become nullable with the help of others.

So the computation with the start symbol set apart does not answer what it answers for the
grammar without the start symbol, nor for the grammar as it is. The trees say what it does
answer, and they are built and taken apart along with the fixed point: a variable that is
added comes with a tree whose top is the rule that admitted it.
-/

namespace ContextFree

variable {g : Grammar} {f : Forest} {a b label : String} {r : Rhs} {K : LabelSet}

namespace Forest

/-- Every node with the label is expanded into nothing. -/
def EmptyAt (label : String) : Forest → Prop
  | nil => True
  | leaf _ rest => rest.EmptyAt label
  | node a _ below rest => (a = label → below = nil) ∧ below.EmptyAt label ∧ rest.EmptyAt label

/-- The trees show that their roots derive the empty word, and use the label for nothing but
its empty rule. -/
structure Vanishes (g : Grammar) (label : String) (f : Forest) : Prop where
  isFrom : f.IsFrom g
  word_eq : f.word = []
  emptyAt : f.EmptyAt label

theorem roots_eq_nil_iff : f.roots = [] ↔ f = nil := by
  cases f <;> simp [roots]

theorem vanishes_nil (g : Grammar) (label : String) : nil.Vanishes g label :=
  ⟨trivial, rfl, trivial⟩

theorem vanishes_node_iff {rule : Nat} {below rest : Forest} :
    (node a rule below rest).Vanishes g label ↔
      (g.rulesOf a)[rule]? = some below.roots ∧ (a = label → below = nil) ∧
        below.Vanishes g label ∧ rest.Vanishes g label := by
  constructor
  · rintro ⟨⟨hrule, hbelow, hrest⟩, hword, ha, hbelow', hrest'⟩
    obtain ⟨hw, hw'⟩ := List.append_eq_nil_iff.1 hword
    exact ⟨hrule, ha, ⟨hbelow, hw, hbelow'⟩, ⟨hrest, hw', hrest'⟩⟩
  · rintro ⟨hrule, ha, hbelow, hrest⟩
    refine ⟨⟨hrule, hbelow.isFrom, hrest.isFrom⟩, ?_, ha, hbelow.emptyAt, hrest.emptyAt⟩
    rw [word, hbelow.word_eq, hrest.word_eq]
    rfl

/-- The symbols are the roots of trees of the empty word. -/
def CanVanish (g : Grammar) (label : String) (r : Rhs) : Prop :=
  ∃ f : Forest, f.Vanishes g label ∧ f.roots = r

theorem canVanish_nil (g : Grammar) (label : String) : CanVanish g label [] :=
  ⟨nil, vanishes_nil g label, rfl⟩

theorem canVanish_variable (hr : r ∈ g.rulesOf a) (ha : a = label → r = [])
    (h : CanVanish g label r) : CanVanish g label [.nonterminal a] := by
  obtain ⟨below, hbelow, rfl⟩ := h
  obtain ⟨rule, hrule⟩ := List.mem_iff_getElem?.1 hr
  have hnil : a = label → below = nil := fun e => roots_eq_nil_iff.1 (ha e)
  exact ⟨node a rule below nil,
    vanishes_node_iff.2 ⟨hrule, hnil, hbelow, vanishes_nil g label⟩, rfl⟩

/-- Trees of single symbols are put side by side. -/
theorem canVanish_of_consistsOf
    (hK : ∀ b, K.contains b = true → CanVanish g label [.nonterminal b])
    (hr : r.consistsOf K = true) : CanVanish g label r := by
  induction r with
  | nil => exact canVanish_nil g label
  | cons s r ih =>
      cases s with
      | terminal t => cases hr
      | nonterminal b =>
          rw [Rhs.consistsOf_cons_nonterminal, Bool.and_eq_true] at hr
          obtain ⟨rest, hrest, rfl⟩ := ih hr.2
          obtain ⟨f, hf, hroots⟩ := hK b hr.1
          cases f with
          | nil | leaf => cases hroots
          | node c rule below rest' =>
              obtain ⟨hrule, hnil, hbelow, -⟩ := vanishes_node_iff.1 hf
              obtain rfl : c = b := by simpa using (List.cons.inj hroots).1
              exact ⟨node c rule below rest, vanishes_node_iff.2 ⟨hrule, hnil, hbelow, hrest⟩, rfl⟩

/-- The roots of such trees are nullable, with the initial start symbol set apart. -/
theorem Vanishes.consistsOf (h : f.Vanishes g g.initialStart) :
    f.roots.consistsOf (g.nullable true) = true := by
  induction f with
  | nil => rfl
  | leaf => cases h.word_eq
  | node a rule below rest ih ih' =>
      obtain ⟨hrule, hnil, hbelow, hrest⟩ := vanishes_node_iff.1 h
      rw [roots, Rhs.consistsOf_cons_nonterminal, Bool.and_eq_true]
      refine ⟨?_, ih' hrest⟩
      have hr := List.mem_of_getElem? hrule
      by_cases ha : a = g.initialStart
      · rw [hnil ha] at hr
        exact Grammar.nullable_of_mem true hr
      · exact Grammar.nullable_of_consistsOf (fun _ => ha) hr (ih hbelow)

end Forest

namespace Grammar

/-- The nullable variables are those that derive the empty word. With the initial start
symbol set apart they are those with a derivation tree of the empty word in which every
node of that symbol is expanded by an empty rule. -/
theorem nullable_exact (g : Grammar) (a : String) :
    ((g.nullable false).contains a = true ↔ Derives g [.nonterminal a] []) ∧
      ((g.nullable true).contains a = true ↔ ∃ f : Forest, f.roots = [.nonterminal a] ∧
        f.IsFrom g ∧ f.word = [] ∧ f.EmptyAt g.initialStart) := by
  refine ⟨nullable_iff, fun h => ?_, ?_⟩
  · have hcan : Forest.CanVanish g g.initialStart [.nonterminal a] := by
      refine nullable_induct (P := fun a => Forest.CanVanish g g.initialStart [.nonterminal a])
        (fun a hr => ?_) (fun K hK a r hr ha hc => ?_) h
      · exact Forest.canVanish_variable hr (fun _ => rfl) (Forest.canVanish_nil g _)
      · exact Forest.canVanish_variable hr (fun e => absurd e (ha rfl))
          (Forest.canVanish_of_consistsOf hK hc)
    obtain ⟨f, hf, hroots⟩ := hcan
    exact ⟨f, hroots, hf.isFrom, hf.word_eq, hf.emptyAt⟩
  · rintro ⟨f, hroots, hfrom, hword, hempty⟩
    have hc := Forest.Vanishes.consistsOf ⟨hfrom, hword, hempty⟩
    rw [hroots, Rhs.consistsOf_cons_nonterminal, Bool.and_eq_true] at hc
    exact hc.1

end Grammar

end ContextFree
