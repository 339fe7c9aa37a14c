import ContextFree.Proofs.Workspace

/-!
# Putting an abbreviation in the place of a rule

When a rule is replaced by an abbreviation of it, no word is lost and none is
gained, and whatever could be reached or was used before still is. The new rule
may coincide with another rule of its owner; the arguments go through membership
in the set of rules, where this makes no difference.

The old rule must be out of form. Then its owner is no standalone variable, the
standalone variables keep their rules, and the abbreviation means the same before
and after.
-/

namespace ContextFree

variable {g : Grammar} {S : Standalones} {a b c label : String} {s : Symbol}
  {body old new r : Rhs} {u : Word}

namespace Grammar

/-- Puts a rule in the place of another rule of the same variable. -/
def replaceRule (g : Grammar) (a : String) (old new : Rhs) : Grammar :=
  g.modifyRules a (·.replace old new)

@[simp]
theorem variableLabels_replaceRule (g : Grammar) (a : String) (old new : Rhs) :
    (g.replaceRule a old new).variableLabels = g.variableLabels :=
  variableLabels_modifyRules ..

theorem rulesOf_replaceRule_of_ne (h : c ≠ a) :
    (g.replaceRule a old new).rulesOf c = g.rulesOf c := by
  rw [rulesOf, replaceRule, ruleSet_modifyRules, if_neg fun e => h e.1]
  rfl

theorem mem_rulesOf_replaceRule (hr : old ∈ g.rulesOf a) :
    r ∈ (g.replaceRule a old new).rulesOf a ↔ (r ∈ g.rulesOf a ∧ r ≠ old) ∨ r = new := by
  have hold : old ∈ g.ruleSet a := hr
  rw [rulesOf, replaceRule, ruleSet_modifyRules, if_pos ⟨rfl, mem_variableLabels_of_mem hr⟩,
    OrderedSet.mem_toList, OrderedSet.mem_replace, and_iff_left hold]
  rfl

theorem new_mem_replaceRule (hr : old ∈ g.rulesOf a) :
    new ∈ (g.replaceRule a old new).rulesOf a :=
  (mem_rulesOf_replaceRule hr).2 (Or.inr rfl)

theorem mem_replaceRule_or (new : Rhs) (hr : old ∈ g.rulesOf a) (h : r ∈ g.rulesOf c) :
    r ∈ (g.replaceRule a old new).rulesOf c ∨ (c = a ∧ r = old) := by
  by_cases hc : c = a
  · subst hc
    by_cases e : r = old
    · exact Or.inr ⟨rfl, e⟩
    · exact Or.inl ((mem_rulesOf_replaceRule hr).2 (Or.inl ⟨h, e⟩))
  · rw [rulesOf_replaceRule_of_ne hc]
    exact Or.inl h

/-- The rules that are not replaced stay. -/
theorem mem_replaceRule_of_ne {p q : Production} (new : Rhs) (hp : p.rhs ∈ g.rulesOf p.lhs)
    (hq : q.rhs ∈ g.rulesOf q.lhs) (hne : q ≠ p) :
    q.rhs ∈ (g.replaceRule p.lhs p.rhs new).rulesOf q.lhs := by
  rcases mem_replaceRule_or new hp hq with h | ⟨hlhs, hrhs⟩
  · exact h
  · exact absurd (by cases p; cases q; simp_all) hne

theorem mem_of_replaceRule (hr : old ∈ g.rulesOf a)
    (h : r ∈ (g.replaceRule a old new).rulesOf c) :
    (r ∈ g.rulesOf c ∧ (c = a → r ≠ old)) ∨ (c = a ∧ r = new) := by
  by_cases hc : c = a
  · subst hc
    rcases (mem_rulesOf_replaceRule hr).1 h with h | h
    · exact Or.inl ⟨h.1, fun _ => h.2⟩
    · exact Or.inr ⟨rfl, h⟩
  · rw [rulesOf_replaceRule_of_ne hc] at h
    exact Or.inl ⟨h, fun e => absurd e hc⟩

end Grammar

open Grammar

section abbreviation

variable (hr : old ∈ g.rulesOf a) (hn : old.isNormal = false)
include hr hn

/-- The owner of a rule out of form stands for nothing. -/
theorem rulesOf_replaceRule_of_normal (hs : g.rulesOf label = [body])
    (hbody : body.isNormal = true) : (g.replaceRule a old new).rulesOf label = [body] := by
  have hne : label ≠ a := by
    intro h
    obtain rfl := h
    rw [hs, List.mem_singleton] at hr
    rw [hr, hbody] at hn
    cases hn
  exact (rulesOf_replaceRule_of_ne hne).trans hs

theorem Standalones.Exact.replaceRule (hS : S.Exact g) : S.Exact (g.replaceRule a old new) := by
  intro body label hl
  obtain ⟨hs, hbody⟩ := hS body label hl
  exact ⟨rulesOf_replaceRule_of_normal hr hn hs hbody, hbody⟩

theorem Grammar.StandsFor.replaceRule (hs : g.StandsFor label body) :
    (g.replaceRule a old new).StandsFor label body where
  rulesOf_eq := rulesOf_replaceRule_of_normal hr hn hs.rulesOf_eq hs.normal
  ne_start := hs.ne_start
  normal := hs.normal

theorem Standalones.Valid.replaceRule (hS : S.Valid g) : S.Valid (g.replaceRule a old new) :=
  fun body label hl => (hS body label hl).replaceRule hr hn

variable (hS : S.Valid g) (he : Expands S new old)
include hS he

theorem derives_replaceRule_iff {r : Rhs} :
    Derives (g.replaceRule a old new) r u ↔ Derives g r u := by
  have hS' : S.Valid (g.replaceRule a old new) := hS.replaceRule hr hn
  refine ⟨fun d => ?_, fun d => ?_⟩
  · refine d.of_admissible fun c q hq v dq => ?_
    rcases mem_of_replaceRule hr hq with hq | ⟨rfl, rfl⟩
    · exact derives_variable_iff.2 ⟨q, hq.1, dq⟩
    · exact derives_variable_iff.2 ⟨old, hr, (he.derives_iff hS.exact).1 dq⟩
  · refine d.of_admissible fun c q hq v dq => ?_
    rcases mem_replaceRule_or new hr hq with hq | ⟨rfl, rfl⟩
    · exact derives_variable_iff.2 ⟨q, hq, dq⟩
    · exact derives_variable_iff.2 ⟨new, new_mem_replaceRule hr, (he.derives_iff hS'.exact).2 dq⟩

theorem reaches_replaceRule (h : g.Reaches b c) : (g.replaceRule a old new).Reaches b c := by
  have hS' : S.Valid (g.replaceRule a old new) := hS.replaceRule hr hn
  induction h with
  | refl => exact .refl
  | step _ hrc hc ih =>
      rcases mem_replaceRule_or new hr hrc with hrc | ⟨rfl, rfl⟩
      · exact ih.step hrc hc
      · -- the variable may be inside an abbreviation now
        obtain ⟨d, hd, hdc⟩ := he.reaches hS'.exact hc
        exact (ih.step (new_mem_replaceRule hr) hd).trans hdc

theorem uses_replaceRule (h : g.Uses s) : (g.replaceRule a old new).Uses s := by
  obtain ⟨c, r, hrc, hs⟩ := h
  rcases mem_replaceRule_or new hr hrc with hrc | ⟨rfl, rfl⟩
  · exact .intro hrc hs
  · rcases he.mem_or hs with hs | ⟨body, label, hl, hs⟩
    · exact .intro (new_mem_replaceRule hr) hs
    · have hbody : body ∈ (g.replaceRule c r new).rulesOf label := by
        rw [((hS body label hl).replaceRule hr hn).rulesOf_eq]
        exact List.mem_cons_self
      exact .intro hbody hs

end abbreviation

theorem Workspace.Sound.replaceRule {w : Workspace} (hw : w.Sound)
    (hr : old ∈ w.grammar.rulesOf a) (hn : old.isNormal = false)
    (he : Expands w.standalones new old) (hnew : ∀ s ∈ new, w.grammar.Admits s) :
    Workspace.Sound { w with grammar := w.grammar.replaceRule a old new } where
  start_mem := by
    rw [variableLabels_replaceRule]
    exact hw.start_mem
  admits := by
    have hkeep : ∀ {s}, w.grammar.Admits s → (w.grammar.replaceRule a old new).Admits s := by
      intro s hs
      refine ⟨hs.1, ?_⟩
      cases s with
      | terminal t => exact hs.2
      | nonterminal b =>
          show b ∈ (w.grammar.replaceRule a old new).variableLabels
          rw [variableLabels_replaceRule]
          exact hs.2
    intro s h
    obtain ⟨c, r, hrc, hs⟩ := h
    rcases mem_of_replaceRule hr hrc with hrc | ⟨rfl, rfl⟩
    · exact hkeep (hw.admits s (.intro hrc.1 hs))
    · exact hkeep (hnew s hs)
  derives := by
    intro b hb
    rw [variableLabels_replaceRule] at hb
    obtain ⟨u, d⟩ := hw.derives b hb
    exact ⟨u, (derives_replaceRule_iff hr hn hw.valid he).2 d⟩
  uses := fun t ht => uses_replaceRule hr hn hw.valid he (hw.uses t ht)
  valid := hw.valid.replaceRule hr hn

end ContextFree
