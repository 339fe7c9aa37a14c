import ContextFree.Proofs.RuleReplacement
import Mathlib.Data.List.Dedup

/-!
# How a workspace evolves

Conversion changes its workspace in two ways only. It makes a variable for a
right-hand side that has none in the table of standalone variables, or it puts a
rule in the place of another one that is out of form. `Evolves` is the record of
such steps, with the variables that were made; what holds of the table, of the
order of the variables and of their number is read off the record, by induction.

The table is sound for one reason: an owner in the table has a single rule, which
is in form, so it is not the owner of a rule that is replaced, and a variable that
is made is none of the old ones.

Nothing here asks for a grammar whose rules mention registered variables only. A
label that is drawn belongs to no registered symbol, and that is all a step needs.
-/

namespace ContextFree

variable {label : String} {body : Rhs} {made made' : List (Rhs × String)} {w w' w'' : Workspace}

namespace Workspace

/-- One workspace comes from another in steps of two kinds. The list holds the
right-hand sides for which variables were made, with the labels that were drawn. -/
inductive Evolves (w : Workspace) : List (Rhs × String) → Workspace → Prop where
  | refl : Evolves w [] w
  | mint {made : List (Rhs × String)} {v : Workspace} {body : Rhs} {label : String} :
      Evolves w made v → v.standalones.get? body = none → v.grammar.hasSymbol label = false →
      body.isNormal = true →
      Evolves w (made ++ [(body, label)])
        ⟨v.grammar.withVariable label body, v.standalones.insertNew body label⟩
  | put {made : List (Rhs × String)} {v : Workspace} {a : String} {old new : Rhs} :
      Evolves w made v → old ∈ v.grammar.rulesOf a → old.isNormal = false →
      Evolves w made { v with grammar := v.grammar.replaceRule a old new }

namespace Evolves

theorem trans (e : w.Evolves made w') (e' : w'.Evolves made' w'') :
    w.Evolves (made ++ made') w'' := by
  induction e' with
  | refl => rwa [List.append_nil]
  | mint _ hnone hfree hn ih =>
      rw [← List.append_assoc]
      exact ih.mint hnone hfree hn
  | put _ hr hn ih => exact ih.put hr hn

/-- Nothing of the grammar is changed but its rules. -/
theorem frame (e : w.Evolves made w') :
    w'.grammar = { w.grammar with rules := w'.grammar.rules } := by
  induction e with
  | refl => rfl
  | @mint made v body label _ _ _ _ ih =>
      exact congrArg (fun g => { g with rules := (v.grammar.withVariable label body).rules }) ih
  | @put made v a old new _ _ _ ih =>
      exact congrArg (fun g => { g with rules := (v.grammar.replaceRule a old new).rules }) ih

theorem entries_eq (e : w.Evolves made w') :
    w'.standalones.entries = w.standalones.entries ++ made := by
  induction e with
  | refl => exact (List.append_nil _).symm
  | mint _ hnone _ _ ih =>
      rw [OrderedMap.entries_insertNew (OrderedMap.not_mem_keys_of_get? hnone), ih,
        List.append_assoc]
  | put _ _ _ ih => exact ih

theorem get?_eq_some (e : w.Evolves made w') (body : Rhs) (label : String)
    (hl : w.standalones.get? body = some label) : w'.standalones.get? body = some label := by
  rw [← OrderedMap.mem_entries_iff, e.entries_eq]
  exact List.mem_append_left _ (OrderedMap.mem_entries_iff.2 hl)

theorem variableLabels_eq (e : w.Evolves made w') :
    w'.grammar.variableLabels = w.grammar.variableLabels ++ made.map Prod.snd := by
  induction e with
  | refl => exact (List.append_nil _).symm
  | mint _ _ hfree _ ih =>
      rw [Grammar.variableLabels_withVariable (Grammar.hasSymbol_eq_false_iff.1 hfree).1, ih,
        List.map_append, List.append_assoc]
      rfl
  | put _ _ _ ih => rw [Grammar.variableLabels_replaceRule, ih]

theorem isNormal_of_mem (e : w.Evolves made w') {entry : Rhs × String} (h : entry ∈ made) :
    entry.1.isNormal = true := by
  induction e with
  | refl => cases h
  | mint _ _ _ hn ih =>
      rcases List.mem_append.1 h with h | h
      · exact ih h
      · rw [List.mem_singleton.1 h]
        exact hn
  | put _ _ _ ih => exact ih h

/-- The right-hand sides for which variables were made differ. -/
theorem nodup_bodies (e : w.Evolves made w') : (made.map Prod.fst).Nodup := by
  have hkeys := w'.standalones.nodup_keys
  rw [e.entries_eq, List.map_append] at hkeys
  exact hkeys.of_append_right

/-- The labels that were drawn are none of the old ones. -/
theorem not_mem_variableLabels (e : w.Evolves made w') (h : (body, label) ∈ made) :
    label ∉ w.grammar.variableLabels := by
  intro hold
  have hlabels : w'.grammar.variableLabels.Nodup := w'.grammar.rules.nodup_keys
  rw [e.variableLabels_eq, List.nodup_append] at hlabels
  exact hlabels.2.2 label hold label (List.mem_map.2 ⟨_, h, rfl⟩) rfl

/-- When a variable was made, there was none for its right-hand side in the table and
its label belonged to no symbol. -/
theorem at_mint (e : w.Evolves made w') {before after : List (Rhs × String)}
    (hmade : made = before ++ (body, label) :: after) :
    ∃ v, w.Evolves before v ∧ v.Evolves ((body, label) :: after) w' ∧
      v.standalones.get? body = none ∧ v.grammar.hasSymbol label = false := by
  induction e generalizing after with
  | refl => exact absurd hmade (by simp)
  | @mint made v b l e hnone hfree hn ih =>
      -- this variable was made last, or a step before the last one
      rcases List.eq_nil_or_concat' after with rfl | ⟨after, x, rfl⟩
      · obtain ⟨rfl, hlast⟩ := List.append_inj' hmade rfl
        cases hlast
        exact ⟨v, e, Evolves.refl.mint hnone hfree hn, hnone, hfree⟩
      · rw [← List.cons_append, ← List.append_assoc] at hmade
        obtain ⟨hinit, hlast⟩ := List.append_inj' hmade rfl
        cases hlast
        obtain ⟨u, hbefore, hafter, hu⟩ := ih hinit
        exact ⟨u, hbefore, hafter.mint hnone hfree hn, hu⟩
  | put _ hr hn ih =>
      obtain ⟨u, hbefore, hafter, hu⟩ := ih hmade
      exact ⟨u, hbefore, hafter.put hr hn, hu⟩

/-- Owners in the table keep their single rules. -/
theorem exact (e : w.Evolves made w') (hw : w.standalones.Exact w.grammar) :
    w'.standalones.Exact w'.grammar := by
  induction e with
  | refl => exact hw
  | mint _ _ hfree hn ih => exact ih.withVariable (Grammar.hasSymbol_eq_false_iff.1 hfree).1 hn
  | put _ hr hn ih => exact ih.replaceRule hr hn

end Evolves

end Workspace

/-! ## How many variables are made -/

/-- The number of pairs among the right-hand sides for which variables were made. -/
def pairCount (made : List (Rhs × String)) : Nat := made.countP fun entry => entry.1.length = 2

/-- Variables were made for some given terminals and for at most so many pairs. -/
structure MadeWithin (terminals : List String) (n : Nat) (made : List (Rhs × String)) : Prop where
  terminal_mem : ∀ t label, ([.terminal t], label) ∈ made → t ∈ terminals
  pairCount_le : pairCount made ≤ n

namespace MadeWithin

variable {m n : Nat} {ts ts' : List String}

theorem nil (ts : List String) (n : Nat) : MadeWithin ts n [] :=
  ⟨(fun _ _ h => nomatch h), Nat.zero_le n⟩

theorem mono (h : MadeWithin ts m made) (hts : ∀ t ∈ ts, t ∈ ts') (hle : m ≤ n) :
    MadeWithin ts' n made :=
  ⟨fun t label hm => hts t (h.terminal_mem t label hm), Nat.le_trans h.pairCount_le hle⟩

theorem append (h : MadeWithin ts m made) (h' : MadeWithin ts n made') :
    MadeWithin ts (n + m) (made ++ made') where
  terminal_mem := by
    intro t label hm
    rcases List.mem_append.1 hm with hm | hm
    · exact h.terminal_mem t label hm
    · exact h'.terminal_mem t label hm
  pairCount_le := by
    rw [pairCount, List.countP_append]
    exact Nat.add_comm n m ▸ Nat.add_le_add h.pairCount_le h'.pairCount_le

theorem single (hn : body.isNormal = true) (label : String) :
    MadeWithin body.terminals (body.length - 1) [(body, label)] where
  terminal_mem := by
    intro t l hm
    cases List.mem_singleton.1 hm
    exact List.mem_cons_self
  pairCount_le := by
    rw [pairCount, List.countP_singleton]
    split <;> simp_all

/-- A right-hand side in form is a terminal or a pair, and no two of those for which
variables are made are the same. -/
theorem length_le (h : MadeWithin ts n made) (hnormal : ∀ entry ∈ made, entry.1.isNormal = true)
    (hnodup : (made.map Prod.fst).Nodup) : made.length ≤ ts.dedup.length + n := by
  let lifted := made.filter fun entry => ¬ entry.1.length = 2
  have hsub : lifted.map Prod.fst ⊆ ts.dedup.map fun t => [.terminal t] := by
    intro body hbody
    obtain ⟨⟨body, label⟩, hentry, rfl⟩ := List.mem_map.1 hbody
    obtain ⟨hm, htwo⟩ := List.mem_filter.1 hentry
    rcases Rhs.isNormal_iff.1 (hnormal _ hm) with ⟨t, rfl⟩ | ⟨b, c, rfl⟩
    · exact List.mem_map.2 ⟨t, List.mem_dedup.2 (h.terminal_mem t label hm), rfl⟩
    · simp at htwo
  have hlifted : lifted.length ≤ ts.dedup.length := by
    have hle := (hnodup.sublist (List.filter_sublist.map Prod.fst)).length_le_of_subset hsub
    rwa [List.length_map, List.length_map] at hle
  calc made.length
      = pairCount made + lifted.length := by
        rw [pairCount, ← List.countP_eq_length_filter]
        simpa using List.length_eq_countP_add_countP (fun entry => entry.1.length = 2) (l := made)
    _ ≤ n + ts.dedup.length := Nat.add_le_add h.pairCount_le hlifted
    _ = ts.dedup.length + n := Nat.add_comm ..

end MadeWithin

end ContextFree
