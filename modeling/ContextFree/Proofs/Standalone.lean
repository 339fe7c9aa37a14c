import ContextFree.NormalForm.Standalone
import ContextFree.Proofs.FreshLabel
import ContextFree.Proofs.UsefulSymbols

/-!
# Standalone variables are abbreviations

A standalone variable has one rule, so it derives what the right-hand side of
that rule derives and can be put in its place. `Expands` says that a sequence
becomes another one when some standalone variables in it are unfolded. It speaks
about the table of standalone variables only; a grammar in which the owners have
the rules that the table says gives both sequences the same words.
-/

namespace ContextFree

/-! ## Tables of standalone variables -/

/-- A variable that derives through one rule, in normal form, and may stand in
other rules. -/
structure Grammar.StandsFor (g : Grammar) (label : String) (body : Rhs) : Prop where
  rulesOf_eq : g.rulesOf label = [body]
  ne_start : label ≠ g.start
  normal : body.isNormal = true

/-- Every entry names a standalone variable of the grammar. -/
def Standalones.Valid (S : Standalones) (g : Grammar) : Prop :=
  ∀ body label, S.get? body = some label → g.StandsFor label body

/-- Every entry names a variable with one rule, which is in normal form. Nothing is
said about the start symbol. -/
def Standalones.Exact (S : Standalones) (g : Grammar) : Prop :=
  ∀ body label, S.get? body = some label → g.rulesOf label = [body] ∧ body.isNormal = true

variable {g h : Grammar} {S T : Standalones} {a b label : String} {s : Symbol}
  {body r short long : Rhs} {u : Word}

theorem Standalones.Valid.exact (hS : S.Valid g) : S.Exact g :=
  fun body label hl => ⟨(hS body label hl).rulesOf_eq, (hS body label hl).normal⟩

theorem Standalones.Valid.insertNew (hS : S.Valid g) (hs : g.StandsFor label body) :
    Standalones.Valid (S.insertNew body label) g := by
  intro b l hl
  rw [OrderedMap.get?_insertNew] at hl
  split at hl
  · next hb =>
      injection hl with hl
      rwa [← hl, hb.1]
  · exact hS b l hl

theorem valid_standalones (g : Grammar) : g.standalones.Valid g := by
  unfold Grammar.standalones
  refine List.foldlRecOn (motive := fun found => Standalones.Valid found g) _ _ ?_ fun found hfound e he => ?_
  · intro body label hl
    cases hl
  · obtain ⟨label, rules⟩ := e
    obtain ⟨-, hrules⟩ := Grammar.mem_entries_iff.1 he
    dsimp only
    split
    · next rhs hrhs =>
        split
        · next hs => exact hfound.insertNew ⟨by rw [Grammar.rulesOf, hrules, hrhs], hs.1, hs.2⟩
        · exact hfound
    · exact hfound

/-! ## Unfolding -/

/-- A sequence becomes another one when standalone variables are unfolded. -/
inductive Expands (S : Standalones) : Rhs → Rhs → Prop where
  | refl {r : Rhs} : Expands S r r
  | unfold {pre body post long : Rhs} {label : String} : S.get? body = some label →
      Expands S (pre ++ body ++ post) long → Expands S (pre ++ .nonterminal label :: post) long

theorem Expands.trans (e : Expands S short r) (e' : Expands S r long) : Expands S short long := by
  induction e with
  | refl => exact e'
  | unfold hl _ ih => exact .unfold hl (ih e')

theorem Expands.mono (hST : ∀ body label, S.get? body = some label → T.get? body = some label)
    (e : Expands S short long) : Expands T short long := by
  induction e with
  | refl => exact .refl
  | unfold hl _ ih => exact .unfold (hST _ _ hl) ih

theorem Expands.context (e : Expands S short long) (pre post : Rhs) :
    Expands S (pre ++ short ++ post) (pre ++ long ++ post) := by
  induction e with
  | refl => exact .refl
  | @unfold pre' body post' long label hl _ ih =>
      have hin : Expands S ((pre ++ pre') ++ body ++ (post' ++ post)) (pre ++ long ++ post) := by
        simpa only [List.append_assoc] using ih
      have hout := Expands.unfold hl hin
      simpa only [List.append_assoc, List.cons_append] using hout

theorem Expands.single (hl : S.get? body = some label) : Expands S [.nonterminal label] body := by
  have hin : Expands S ([] ++ body ++ []) body := by
    rw [List.nil_append, List.append_nil]
    exact .refl
  have hout := Expands.unfold hl hin
  exact hout

theorem derives_standalone_iff (h : g.rulesOf label = [body]) :
    Derives g [.nonterminal label] u ↔ Derives g body u := by
  rw [derives_variable_iff, h]
  simp

/-- Abbreviations do not change what is derived. -/
theorem Expands.derives_iff (hS : S.Exact g) (e : Expands S short long) :
    Derives g short u ↔ Derives g long u := by
  induction e generalizing u with
  | refl => exact Iff.rfl
  | @unfold pre body post long label hl _ ih =>
      rw [← ih, ← derives_context_congr (fun _ => derives_standalone_iff (hS body label hl).1) pre post,
        List.append_assoc, List.singleton_append]

theorem Expands.mem_or (e : Expands S short long) (hs : s ∈ long) :
    s ∈ short ∨ ∃ body label, S.get? body = some label ∧ s ∈ body := by
  induction e with
  | refl => exact Or.inl hs
  | @unfold pre body post long label hl _ ih =>
      rcases ih hs with hm | hm
      · simp only [List.mem_append] at hm
        rcases hm with (hm | hm) | hm
        · exact Or.inl (List.mem_append_left _ hm)
        · exact Or.inr ⟨body, label, hl, hm⟩
        · exact Or.inl (List.mem_append_right _ (List.mem_cons_of_mem _ hm))
      · exact Or.inr hm

theorem Expands.reaches (hS : S.Exact g) (e : Expands S short long) (ha : .nonterminal a ∈ long) :
    ∃ b, .nonterminal b ∈ short ∧ g.Reaches b a := by
  induction e with
  | refl => exact ⟨a, ha, .refl⟩
  | @unfold pre body post long label hl _ ih =>
      obtain ⟨b, hb, hba⟩ := ih ha
      simp only [List.mem_append] at hb
      rcases hb with (hb | hb) | hb
      · exact ⟨b, List.mem_append_left _ hb, hba⟩
      · have hr : body ∈ g.rulesOf label := by
          rw [(hS body label hl).1]
          exact List.mem_cons_self
        exact ⟨label, List.mem_append_right _ List.mem_cons_self,
          (Grammar.Reaches.refl.step hr hb).trans hba⟩
      · exact ⟨b, List.mem_append_right _ (List.mem_cons_of_mem _ hb), hba⟩

end ContextFree
