import ContextFree.Proofs.Labels

/-!
# Rules that are loaded again

A listing of a grammar has one entry for every variable, and its alternatives are labels.
If the labels follow the convention on capitals, they are read as the symbols that they
were. So a grammar that is loaded from its listing has the rules that it had. Only the order
of its variables may be another one, because those that a rule mentions are registered with
the rule.
-/

namespace ContextFree

variable {a t : String} {rules : List (String × List (List String))}

/-! ## Where terminals come from -/

theorem Symbol.eq_of_ofLabel_eq_terminal (h : Symbol.ofLabel a = .terminal t) : a = t := by
  unfold Symbol.ofLabel at h
  split at h
  · cases h
  · cases h
    rfl

namespace Grammar

variable {g : Grammar}

/-- A terminal of a grammar that is loaded comes from some alternative. -/
theorem forall_terminals_loadAll {P : String → Prop} (hg : ∀ t ∈ g.terminals, P t)
    (h : ∀ r ∈ rules, ∀ labels ∈ r.2, ∀ a ∈ labels, P a) :
    ∀ t ∈ (rules.foldl (fun g r => g.load r.1 r.2) g).terminals, P t := by
  intro t ht
  obtain ht | ⟨r, hr, e | ⟨labels, hl, ht⟩⟩ := (registers_loadAll (s := .terminal t)).1 ht
  · exact hg t ht
  · cases e
  · obtain ⟨a, ha, hta⟩ := List.mem_map.1 ht
    obtain rfl := Symbol.eq_of_ofLabel_eq_terminal hta
    exact h r hr labels hl a (List.mem_filter.1 ha).1

theorem forall_terminals_ofText {P : String → Prop} {spelling : Spelling} {bounded : Bool}
    {start : Option String} {source : String}
    (hP : ∀ text, ∀ labels ∈ spelling.alternatives text, ∀ a ∈ labels, P a)
    (h : ofText spelling bounded start source = .ok g) : ∀ t ∈ g.terminals, P t := by
  obtain ⟨_, rules, hrules, -, rfl⟩ := exists_of_ofText h
  refine forall_terminals_loadAll nofun fun r hr labels hl a ha => ?_
  obtain ⟨l, -, hline⟩ := exists_of_mapM_eq_ok hrules hr
  obtain ⟨_, right, -, hright⟩ := exists_of_readLine hline
  exact hP right labels (hright ▸ hl) a ha

theorem IsRead.isTrimmed (hg : g.IsRead) : ∀ t ∈ g.terminals, IsTrimmed t := by
  obtain ⟨start, bounded, rules, -, hrules, rfl⟩ := hg.exists_rules
  exact forall_terminals_loadAll nofun fun r hr => (hrules r hr).sides.2

end Grammar

/-! ## Symbols as labels, and back -/

variable {s : Symbol} {rhs : Rhs}

theorem Symbol.FitsLabel.ofLabel_label (h : s.FitsLabel) : Symbol.ofLabel s.label = s := by
  cases s with
  | terminal t => exact if_neg (by simp [Symbol.label, h.1])
  | nonterminal a => exact if_pos h

theorem Symbol.FitsLabel.not_mark (h : s.FitsLabel) : s.label ∉ emptyMarks := by
  cases s with
  | terminal t => exact h.2.2
  | nonterminal a => exact (not_emptyMark_of_isVariableLabel h).2

namespace Grammar

theorem symbolsOfLabels_map_label (h : ∀ s ∈ rhs, s.FitsLabel) :
    symbolsOfLabels (rhs.map Symbol.label) = rhs := by
  have hmarks : (rhs.map Symbol.label).filter (fun a => !emptyMarks.contains a) =
      rhs.map Symbol.label := by
    refine List.filter_eq_self.2 (List.forall_mem_map.2 fun s hs => ?_)
    simpa using (h s hs).not_mark
  rw [symbolsOfLabels, hmarks, List.map_map]
  exact (List.map_congr_left fun s hs => (h s hs).ofLabel_label).trans (List.map_id _)

/-- The mark that stands for an empty rule disappears. -/
theorem symbolsOfLabels_labels (h : ∀ s ∈ rhs, s.FitsLabel) :
    symbolsOfLabels rhs.labels = rhs := by
  cases rhs with
  | nil => decide
  | cons s rhs => exact symbolsOfLabels_map_label h

/-- The same start symbol, the same variables, in whatever order, and for each of them the
same rules in the same order. -/
structure SameRules (g k : Grammar) : Prop where
  start_eq : k.start = g.start
  mem_variableLabels : ∀ a, a ∈ k.variableLabels ↔ a ∈ g.variableLabels
  rulesOf_eq : ∀ a, k.rulesOf a = g.rulesOf a

variable {g k : Grammar}

/-- The entry of a variable in a listing. -/
theorem filter_entries {α : Type} {as : List String} (has : as.Nodup) (f : String → α)
    (a : String) : (as.map fun b => (b, f b)).filter (·.1 = a) =
      if a ∈ as then [(a, f a)] else [] := by
  induction as with
  | nil => rfl
  | cons b as ih =>
      rw [List.nodup_cons] at has
      rw [List.map_cons]
      by_cases e : b = a
      · subst e
        simp [ih has.2, has.1]
      · simp [ih has.2, e, Ne.symm e]

/-- A grammar is read back from a listing whose alternatives stand for its rules. -/
theorem sameRules_loadAll (hg : g.WellFormed) (hk : k.start = g.start)
    (hnone : ∀ a, k.ruleSet a = .empty) (hvars : ∀ a ∈ k.variableLabels, a ∈ g.variableLabels)
    {f : String → List (List String)}
    (hf : ∀ a ∈ g.variableLabels, (f a).map symbolsOfLabels = g.rulesOf a) :
    g.SameRules ((g.variableLabels.map fun a => (a, f a)).foldl (fun g r => g.load r.1 r.2) k) where
  start_eq := by
    obtain ⟨_, _, e⟩ := sameSettings_loadAll (g.variableLabels.map fun a => (a, f a)) k
    rw [e]
    exact hk
  mem_variableLabels := by
    intro a
    refine (registers_loadAll (s := .nonterminal a)).trans ⟨?_, fun ha => Or.inr ?_⟩
    · rintro (ha | ⟨r, hr, ha⟩)
      · exact hvars a ha
      · obtain ⟨b, hb, rfl⟩ := List.mem_map.1 hr
        rcases ha with e | ⟨labels, hl, ha⟩
        · injection e with e
          exact e ▸ hb
        · exact hg.closed.mem (hf b hb ▸ List.mem_map_of_mem hl) ha
    · exact ⟨_, List.mem_map_of_mem ha, Or.inl rfl⟩
  rulesOf_eq := by
    intro a
    have hlabels : g.variableLabels.Nodup := g.rules.nodup_keys
    rw [rulesOf, ruleSet_loadAll, filter_entries hlabels, hnone]
    split
    · next ha =>
        rw [List.flatMap_singleton, hf a ha]
        exact congrArg OrderedSet.toList (OrderedSet.ofList_toList _)
    · next ha => exact (rulesOf_of_not_mem ha).symm

end Grammar

end ContextFree
