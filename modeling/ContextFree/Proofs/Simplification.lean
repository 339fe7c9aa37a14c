import ContextFree.Simplification
import ContextFree.Proofs.EmptyWord
import ContextFree.Proofs.UnitRules
import ContextFree.Proofs.UsefulSymbols

/-!
# What simplification keeps and what it brings about

Simplification is three programs one after the other, and the second and third
may stop. A property that every single rewriting step keeps is kept by the whole,
whichever way it ends; `Kept` collects the three steps, so a property is checked
against them once and holds of every program that is built from them.

When simplification returns, the grammar is trim and has neither empty rules nor
rules that are single nonterminals. The order of the programs matters only here:
the later ones add no rule of the shape that an earlier one took out.
-/

namespace ContextFree

namespace Grammar

/-- Nothing but derivations from the start symbol itself ever shows it. -/
def StartUnused (g : Grammar) : Prop := ¬ g.Uses (.nonterminal g.start)

/-- What simplification is for. -/
structure Simplified (g : Grammar) : Prop where
  trim : g.Trim
  nil_not_mem : ∀ a, [] ∉ g.rulesOf a
  unit_not_mem : ∀ a b, [.nonterminal b] ∉ g.rulesOf a

variable {g : Grammar} {a : String} {r : Rhs}

theorem startIsMentioned_eq_false_iff : g.startIsMentioned = false ↔ g.StartUnused := by
  rw [← Bool.not_eq_true]
  refine not_congr ?_
  rw [startIsMentioned, List.any_eq_true]
  refine ⟨fun h => ?_, fun h => ?_⟩
  · obtain ⟨p, hp, hm⟩ := h
    exact .intro (mem_productions.1 hp) (Rhs.mentions_iff.1 hm)
  · obtain ⟨a, rhs, hr, hs⟩ := h
    exact ⟨⟨a, rhs⟩, mem_productions.2 hr, Rhs.mentions_iff.2 hs⟩

theorem mem_rulesOf_of_usefulPart (hc : g.Closed) (h : r ∈ g.usefulPart.rulesOf a) :
    r ∈ g.rulesOf a :=
  ((mem_rulesOf_keepVariables hc).1 ((mem_rulesOf_usefulPart hc).1 h).1).1

end Grammar

/-! ## Properties that are kept -/

/-- A property of well-formed grammars that no step of simplification destroys. -/
structure Kept (P : Grammar → Prop) : Prop where
  removeEmptyRules : ∀ {g : Grammar}, P g → P g.removeEmptyRules
  inlineUnit : ∀ {g : Grammar} (a b : String), P g → P (g.inlineUnit a b)
  usefulPart : ∀ {g : Grammar}, g.WellFormed → P g → P g.usefulPart

theorem kept_accepts (L : Word → Prop) : Kept fun g => ∀ w, g.Accepts w ↔ L w where
  removeEmptyRules := fun h w => Grammar.accepts_removeEmptyRules_iff.trans (h w)
  inlineUnit := fun _ _ h w => Grammar.accepts_inlineUnit_iff.trans (h w)
  usefulPart := fun hg h w => (Grammar.accepts_usefulPart_iff hg.closed).trans (h w)

theorem kept_startUnused : Kept Grammar.StartUnused where
  removeEmptyRules := fun h hu => h (Grammar.uses_of_removeEmptyRules hu)
  inlineUnit := fun {g} a b h hu => by
    rw [Grammar.inlineUnit_start] at hu
    exact h (Grammar.uses_of_inlineUnit hu)
  usefulPart := fun {g} hg h hu => by
    rw [Grammar.usefulPart_start] at hu
    exact h (Grammar.uses_of_usefulPart hg.closed hu)

theorem Kept.and {P Q : Grammar → Prop} (hP : Kept P) (hQ : Kept Q) :
    Kept fun g => P g ∧ Q g where
  removeEmptyRules := fun h => ⟨hP.removeEmptyRules h.1, hQ.removeEmptyRules h.2⟩
  inlineUnit := fun a b h => ⟨hP.inlineUnit a b h.1, hQ.inlineUnit a b h.2⟩
  usefulPart := fun hg h => ⟨hP.usefulPart hg h.1, hQ.usefulPart hg h.2⟩

/-! ## The programs -/

namespace Transform

variable {g : Grammar} {P : Grammar → Prop}

theorem removeEmptyRules_ends (hP : Kept P) (hg : g.WellFormed) (h : P g) :
    Ends (removeEmptyRules.run g)
      (fun _ g' => g'.WellFormed ∧ P g' ∧ ∀ a, [] ∉ g'.rulesOf a) fun _ _ => False :=
  ⟨hg.removeEmptyRules, hP.removeEmptyRules h, Grammar.nil_not_mem_removeEmptyRules⟩

theorem removeUnits_kept (hP : Kept P) (limit : Int) (hg : g.WellFormed) (h : P g) :
    Ends ((removeUnits limit).run g) (fun _ g' => g'.WellFormed ∧ P g')
      fun _ g' => g'.WellFormed ∧ P g' :=
  (removeUnits_ends (P := fun g => g.WellFormed ∧ P g)
    (fun _ a b h => ⟨h.1.inlineUnit a b, hP.inlineUnit a b h.2⟩) limit ⟨hg, h⟩).imp
    (fun _ _ h => h.1) fun _ _ h => h

theorem removeUseless_ends (g : Grammar) :
    Ends (removeUseless.run g) (fun _ g' => (∃ w, g.Generates w) ∧ g' = g.usefulPart)
      fun _ g' => g' = g := by
  rw [Grammar.removeUseless_run]
  split
  · next h => exact ⟨Grammar.terminating_iff.1 h, rfl⟩
  · exact rfl

/-- What is left of a grammar that was simplified has its start symbol, whatever the
grammar was. -/
theorem simplify_start_mem (limit : Int) (g : Grammar) :
    Ends ((simplify limit).run g) (fun _ g' => g'.start ∈ g'.variableLabels) fun _ _ => True := by
  rw [simplify, ends_bind]
  refine (ends_true _).imp (fun _ g₁ _ => ?_) fun _ _ h => h
  rw [ends_bind]
  refine (ends_true _).imp (fun _ g₂ _ => ?_) fun _ _ h => h
  rw [Grammar.removeUseless_run]
  split
  · next h => exact Grammar.start_mem_usefulPart h
  · trivial

theorem removeUseless_kept (hP : Kept P) (hg : g.WellFormed) (h : P g) :
    Ends (removeUseless.run g) (fun _ g' => g'.WellFormed ∧ P g')
      fun _ g' => g'.WellFormed ∧ P g' := by
  refine (removeUseless_ends g).imp ?_ ?_
  · intro _ g' hend
    obtain ⟨hs, rfl⟩ := hend
    exact ⟨hg.usefulPart hs, hP.usefulPart hg h⟩
  · intro _ g' hend
    obtain rfl := hend
    exact ⟨hg, h⟩

/-- Simplification keeps what its steps keep, also if it stops on its way. -/
theorem simplify_ends (hP : Kept P) (limit : Int) (hg : g.WellFormed) (h : P g) :
    Ends ((simplify limit).run g) (fun _ g' => g'.Simplified ∧ P g')
      fun _ g' => g'.WellFormed ∧ P g' := by
  rw [simplify, ends_bind]
  refine (removeEmptyRules_ends hP hg h).imp ?_ fun _ _ h => h.elim
  intro _ g₁ hend
  obtain ⟨hg₁, h₁, hne⟩ := hend
  rw [ends_bind]
  refine (removeUnits_ends (P := fun g => (g.WellFormed ∧ P g) ∧ ∀ a, [] ∉ g.rulesOf a)
    ?_ limit ⟨⟨hg₁, h₁⟩, hne⟩).imp ?_ fun _ _ h => h.1
  · intro g a b hend
    obtain ⟨⟨hg, h⟩, hne⟩ := hend
    exact ⟨⟨hg.inlineUnit a b, hP.inlineUnit a b h⟩, Grammar.nil_not_mem_inlineUnit hne⟩
  intro _ g₂ hend
  obtain ⟨⟨⟨hg₂, h₂⟩, hne⟩, hunit⟩ := hend
  refine (removeUseless_ends g₂).imp ?_ ?_
  · intro _ g₃ hend
    obtain ⟨hs, rfl⟩ := hend
    have hsub := fun {a r} => Grammar.mem_rulesOf_of_usefulPart (a := a) (r := r) hg₂.closed
    exact ⟨⟨Grammar.trim_usefulPart hg₂ hs, fun a hr => hne a (hsub hr),
      fun a b hr => hunit a b (hsub hr)⟩, hP.usefulPart hg₂ h₂⟩
  · intro _ g₃ hend
    obtain rfl := hend
    exact ⟨hg₂, h₂⟩

end Transform

end ContextFree
