import ContextFree.Proofs.Contract
import ContextFree.Proofs.RuleReplacement
import ContextFree.Proofs.StartSymbol

/-!
# Conversion to normal form

A rule that is out of form is rewritten into a sequence of two nonterminals,
and that sequence takes its place. Every part of the rewriting meets the contract
`keepsSound`, so the new rule abbreviates the old one. Both grammars, the one with
the old rule and the one with the new, therefore derive the same words, whatever
becomes of the new rule: it may be a rule the owner has already, and then nothing
stands where the old rule stood.

Between two rules the workspace is in the state `Converting`: the new variables
can be reached, because the sequence from which they were is now in a rule, and
only the rules that are still to come can be out of form.
-/

namespace ContextFree

variable {g : Grammar} {r new : Rhs}

/-! ## Rewriting one sequence -/

namespace Conversion

variable {w : Workspace}

/-- What is kept while a sequence is rewritten, given that it was so before and
that the symbols of the sequence may stand in a rule. -/
def keepsSound : Contract where
  returned _ w long short w' :=
    w.Sound → (∀ s ∈ long, w.grammar.Admits s) → w.Rewrites long short w'
  stopped _ w long _ w' := w.Sound → (∀ s ∈ long, w.grammar.Admits s) → w.Grows w'
  refl _ _ _ hw hr := .refl hw hr
  trans h h' hw hr := by
    have e := h hw hr
    exact e.trans (h' e.sound e.admits)
  trans_stopped h h' hw hr := by
    have e := h hw hr
    exact e.toGrows.trans (h' e.sound e.admits)
  context pre post h hw hr := by
    have e := h hw fun s hs => hr s (List.mem_append_left _ (List.mem_append_right _ hs))
    exact e.context pre post (fun s hs => hr s (List.mem_append_left _ (List.mem_append_left _ hs)))
      fun s hs => hr s (List.mem_append_right _ hs)
  context_stopped pre post h hw hr :=
    h hw fun s hs => hr s (List.mem_append_left _ (List.mem_append_right _ hs))
  standaloneFor w body hn := by
    refine Ends.of_imp fun hw => Ends.of_imp fun hr => ?_
    refine (standaloneFor_ends hw hn hr).imp (fun _ _ e => e) ?_
    intro _ w' e
    rw [e]
    exact .refl hw

theorem lift_shorten_ends (hw : w.Sound) (hr : ∀ s ∈ r, w.grammar.Admits s)
    (hlen : 2 ≤ r.length) :
    Ends ((do shorten (← liftTerminals r) : Conversion Rhs).run w)
      (fun r' w' => w.Rewrites r r' w' ∧ r'.isNormal = true) fun _ w' => w.Grows w' := by
  refine (keepsSound.liftTerminals_shorten w hlen).imp ?_ fun _ _ h => h hw hr
  intro r' w' hend
  obtain ⟨h, b, c, rfl⟩ := hend
  exact ⟨h hw hr, rfl⟩

end Conversion

/-! ## Going through the rules -/

/-- The state between two rules: every variable can be reached, the rules to come
are still there, and no other rule is out of form. -/
structure Workspace.Converting (w : Workspace) (rest : List Production) : Prop
    extends w.Sound where
  reaches : ∀ a ∈ w.grammar.variableLabels, w.grammar.Reaches w.grammar.start a
  nodup : rest.Nodup
  mem : ∀ p ∈ rest, p.rhs ∈ w.grammar.rulesOf p.lhs
  long : ∀ p ∈ rest, p.rhs.isNormal = true ∨ 2 ≤ p.rhs.length
  normal_or_mem : ∀ a, ∀ r ∈ w.grammar.rulesOf a, r.isNormal = true ∨ ⟨a, r⟩ ∈ rest

namespace Workspace

variable {w w' : Workspace} {p : Production} {rest : List Production}

theorem Converting.tail (hw : w.Converting (p :: rest)) (hn : p.rhs.isNormal = true) :
    w.Converting rest where
  toSound := hw.toSound
  reaches := hw.reaches
  nodup := (List.nodup_cons.1 hw.nodup).2
  mem := fun q hq => hw.mem q (List.mem_cons_of_mem _ hq)
  long := fun q hq => hw.long q (List.mem_cons_of_mem _ hq)
  normal_or_mem := by
    intro a r hr
    rcases hw.normal_or_mem a r hr with h | h
    · exact Or.inl h
    · rcases List.mem_cons.1 h with rfl | h
      · exact Or.inl hn
      · exact Or.inr h

/-- When the rewritten rule is put in its place, the new variables can be reached
through it. -/
theorem Converting.replaceRule (hw : w.Converting (p :: rest)) (hn : p.rhs.isNormal = false)
    (e : w.Rewrites p.rhs new w') (hnew : new.isNormal = true) :
    Converting { w' with grammar := w'.grammar.replaceRule p.lhs p.rhs new } rest := by
  have hr : p.rhs ∈ w'.grammar.rulesOf p.lhs := e.grammar.mem_rulesOf (hw.mem p List.mem_cons_self)
  have hkeep : ∀ {b c}, w'.grammar.Reaches b c →
      (w'.grammar.replaceRule p.lhs p.rhs new).Reaches b c :=
    fun h => reaches_replaceRule hr hn e.sound.valid e.expands h
  have hold : ∀ a ∈ w.grammar.variableLabels,
      (w'.grammar.replaceRule p.lhs p.rhs new).Reaches w'.grammar.start a := by
    intro a ha
    rw [e.grammar.start_eq]
    exact hkeep (e.grammar.reaches (hw.reaches a ha))
  refine ⟨e.sound.replaceRule hr hn e.expands e.admits, ?_, (List.nodup_cons.1 hw.nodup).2, ?_,
    fun q hq => hw.long q (List.mem_cons_of_mem _ hq), ?_⟩
  · intro a ha
    rw [Grammar.variableLabels_replaceRule] at ha
    rcases e.covers a ha with ha | ⟨b, hb, hba⟩
    · exact hold a ha
    · have hlhs := hold p.lhs (Grammar.mem_variableLabels_of_mem (hw.mem p List.mem_cons_self))
      exact (hlhs.step (Grammar.new_mem_replaceRule hr) hb).trans (hkeep hba)
  · intro q hq
    have hqr := e.grammar.mem_rulesOf (hw.mem q (List.mem_cons_of_mem _ hq))
    -- the same rule is not listed twice
    exact Grammar.mem_replaceRule_of_ne new hr hqr fun h =>
      (List.nodup_cons.1 hw.nodup).1 (h ▸ hq)
  · intro a r hra
    rcases Grammar.mem_of_replaceRule hr hra with ⟨hra, hne⟩ | ⟨-, rfl⟩
    · rcases e.mem_or_normal a r hra with hra | h
      · rcases hw.normal_or_mem a r hra with h | h
        · exact Or.inl h
        · rcases List.mem_cons.1 h with rfl | h
          · exact absurd rfl (hne rfl)
          · exact Or.inr h
      · exact Or.inl h
    · exact Or.inl hnew

end Workspace

/-! ## The programs -/

namespace Conversion

variable {w : Workspace} {p : Production} {rest : List Production} {L : Word → Prop}

theorem convertProduction_ends (hw : w.Converting (p :: rest))
    (hL : ∀ u, w.grammar.Accepts u ↔ L u) :
    Ends ((convertProduction p).run w)
      (fun _ w' => w'.Converting rest ∧ ∀ u, w'.grammar.Accepts u ↔ L u)
      fun _ w' => w'.Sound ∧ ∀ u, w'.grammar.Accepts u ↔ L u := by
  have hkeep : ∀ {w'}, w.Grows w' → ∀ u, w'.grammar.Accepts u ↔ L u :=
    fun e u => (e.grammar.accepts_iff hw.wellFormed).trans (hL u)
  cases hn : p.rhs.isNormal with
  | true =>
      rw [convertProduction, hn]
      exact ⟨hw.tail hn, hL⟩
  | false =>
      have hlong : 2 ≤ p.rhs.length := by
        rcases hw.long p List.mem_cons_self with h | h
        · rw [hn] at h
          cases h
        · exact h
      have hadm : ∀ s ∈ p.rhs, w.grammar.Admits s :=
        fun s hs => hw.admits s (.intro (hw.mem p List.mem_cons_self) hs)
      rw [convertProduction_eq hn, ends_bind]
      refine (lift_shorten_ends hw.toSound hadm hlong).imp ?_ fun _ w' e => ⟨e.sound, hkeep e⟩
      intro rhs w' hend
      obtain ⟨e, hnew⟩ := hend
      refine ⟨hw.replaceRule hn e hnew, fun u => Iff.trans ?_ (hkeep e.toGrows u)⟩
      have hr := e.grammar.mem_rulesOf (hw.mem p List.mem_cons_self)
      exact or_congr (derives_replaceRule_iff hr hn e.sound.valid e.expands) Iff.rfl

theorem forM_convertProduction_ends (hw : w.Converting rest)
    (hL : ∀ u, w.grammar.Accepts u ↔ L u) :
    Ends ((rest.forM convertProduction).run w)
      (fun _ w' => w'.Converting [] ∧ ∀ u, w'.grammar.Accepts u ↔ L u)
      fun _ w' => w'.Sound ∧ ∀ u, w'.grammar.Accepts u ↔ L u := by
  induction rest generalizing w with
  | nil => exact ⟨hw, hL⟩
  | cons p rest ih =>
      rw [List.forM_eq_forM, List.forM_cons, ends_bind]
      refine (convertProduction_ends hw hL).imp ?_ fun _ _ h => h
      exact fun _ w' h => ih h.1 h.2

theorem toTransform_ends {α : Type} {conversion : Conversion α} {done : α → Grammar → Prop}
    {stopped : TransformError → Grammar → Prop}
    (h : Ends (conversion.run g.workspace) (fun a w => done a w.grammar)
      fun e w => stopped e w.grammar) :
    Ends (conversion.toTransform.run g) done stopped := by
  rw [EStateM.run] at h ⊢
  unfold toTransform
  cases hrun : conversion g.workspace with
  | ok a w =>
      rw [hrun] at h
      exact h
  | error e w =>
      rw [hrun] at h
      exact h

end Conversion

/-- What conversion is for: the grammar is in normal form, its start symbol stands
in no rule, and all its symbols are needed. -/
structure Grammar.Converted (g : Grammar) : Prop where
  trim : g.Trim
  startUnused : g.StartUnused
  isNormal : g.isNormal = true

theorem Grammar.Simplified.converting (hg : g.Simplified) (hs : g.StartUnused) :
    g.workspace.Converting g.productions := by
  have hlong : ∀ a, ∀ r ∈ g.rulesOf a, r.isNormal = true ∨ 2 ≤ r.length := by
    intro a r hr
    match r with
    | [] => exact absurd hr (hg.nil_not_mem a)
    | [.terminal _] => exact Or.inl rfl
    | [.nonterminal b] => exact absurd hr (hg.unit_not_mem a b)
    | _ :: _ :: _ => exact Or.inr (Nat.succ_le_succ (Nat.succ_le_succ (Nat.zero_le _)))
  refine ⟨⟨hg.trim.wellFormed.start_mem, ?_, hg.trim.derives, hg.trim.uses,
    valid_standalones g⟩, hg.trim.reaches, nodup_productions g, fun _ => mem_productions.1,
    fun p hp => hlong p.lhs p.rhs (mem_productions.1 hp),
    fun a r hr => Or.inr (mem_productions.2 hr)⟩
  intro s hu
  refine ⟨fun e => hs (e ▸ hu), ?_⟩
  cases s with
  | terminal t => exact hg.trim.wellFormed.terminal_mem t hu
  | nonterminal a => exact hg.trim.wellFormed.closed a hu

theorem Workspace.Converting.converted {w : Workspace} (hw : w.Converting []) :
    w.grammar.Converted where
  trim := ⟨hw.wellFormed, hw.reaches, hw.derives, hw.uses⟩
  startUnused := fun hu => (hw.admits _ hu).1 rfl
  isNormal := by
    refine List.all_eq_true.2 fun p hp => ?_
    rcases hw.normal_or_mem p.lhs p.rhs (Grammar.mem_productions.1 hp) with h | h
    · exact h
    · cases h

/-- Conversion keeps the language, whichever way it ends. -/
theorem Transform.toNormalForm_ends {L : Word → Prop} (newStart : Option String) (limit : Int)
    (hg : g.WellFormed) (hL : ∀ u, g.Accepts u ↔ L u) :
    Ends ((toNormalForm newStart limit).run g)
      (fun _ g' => g'.Converted ∧ ∀ u, g'.Accepts u ↔ L u)
      fun _ g' => g'.WellFormed ∧ ∀ u, g'.Accepts u ↔ L u := by
  rw [toNormalForm, ends_bind]
  refine (isolateStart_ends newStart hg).imp ?_ ?_
  · intro _ g₁ hend
    obtain ⟨hg₁, hs₁, hL₁⟩ := hend
    rw [ends_bind]
    refine (simplify_ends (kept_startUnused.and (kept_accepts L)) limit hg₁
      ⟨hs₁, fun u => (hL₁ u).trans (hL u)⟩).imp ?_ fun _ g₂ h => ⟨h.1, h.2.2⟩
    intro _ g₂ hend
    obtain ⟨hg₂, hs₂, hL₂⟩ := hend
    refine Conversion.toTransform_ends ?_
    refine (Conversion.forM_convertProduction_ends (hg₂.converting hs₂) hL₂).imp ?_ ?_
    · exact fun _ w h => ⟨h.1.converted, h.2⟩
    · exact fun _ w h => ⟨h.1.wellFormed, h.2⟩
  · intro _ g₁ hend
    obtain rfl := hend
    exact ⟨hg, hL⟩

end ContextFree
