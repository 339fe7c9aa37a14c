import ContextFree.Proofs.Outcome
import ContextFree.Proofs.Standalone

/-!
# Workspaces under conversion

Conversion works on a sequence that stands in no rule yet, while new variables
are registered beside the old ones. `Rewrites` relates the sequence and the
workspace before with those after. It is reflexive, it composes, and it holds
inside a longer sequence, so it is enough to prove it of the program that looks a
standalone variable up, or makes it.

It does not say that a new variable can be reached from the start symbol, because
it cannot before the sequence is put into a rule. What it says instead is that
every new variable can be reached from the sequence.
-/

namespace ContextFree

variable {g h k : Grammar} {a b label : String} {s : Symbol} {body r r' long short : Rhs}
  {v : Word}

namespace Grammar

/-- A symbol may stand in a rule: it is registered and is not the start symbol. -/
def Admits (g : Grammar) (s : Symbol) : Prop := s ≠ .nonterminal g.start ∧ g.Registers s

theorem StandsFor.admits (hs : g.StandsFor label body) : g.Admits (.nonterminal label) := by
  have hbody : body ∈ g.rulesOf label := by
    rw [hs.rulesOf_eq]
    exact List.mem_cons_self
  exact ⟨fun e => hs.ne_start (by injection e), mem_variableLabels_of_mem hbody⟩

/-! ## Variables beside the old ones -/

/-- A grammar has more variables than another one and is the same apart from them. -/
structure Extends (g h : Grammar) : Prop where
  start_eq : h.start = g.start
  terminals_eq : h.terminals = g.terminals
  acceptsEmpty_eq : h.acceptsEmpty = g.acceptsEmpty
  mem : ∀ a ∈ g.variableLabels, a ∈ h.variableLabels
  rulesOf_eq : ∀ a ∈ g.variableLabels, h.rulesOf a = g.rulesOf a

theorem Extends.refl (g : Grammar) : g.Extends g :=
  ⟨rfl, rfl, rfl, fun _ ha => ha, fun _ _ => rfl⟩

theorem Extends.trans (e : g.Extends h) (e' : h.Extends k) : g.Extends k where
  start_eq := e'.start_eq.trans e.start_eq
  terminals_eq := e'.terminals_eq.trans e.terminals_eq
  acceptsEmpty_eq := e'.acceptsEmpty_eq.trans e.acceptsEmpty_eq
  mem := fun a ha => e'.mem a (e.mem a ha)
  rulesOf_eq := fun a ha => (e'.rulesOf_eq a (e.mem a ha)).trans (e.rulesOf_eq a ha)

theorem Extends.mem_rulesOf (e : g.Extends h) (hr : r ∈ g.rulesOf a) : r ∈ h.rulesOf a := by
  rwa [e.rulesOf_eq a (mem_variableLabels_of_mem hr)]

theorem Extends.uses (e : g.Extends h) (hs : g.Uses s) : h.Uses s := by
  obtain ⟨a, r, hr, hs⟩ := hs
  exact .intro (e.mem_rulesOf hr) hs

theorem Extends.admits (e : g.Extends h) (hs : g.Admits s) : h.Admits s := by
  refine ⟨e.start_eq ▸ hs.1, ?_⟩
  cases s with
  | terminal t =>
      rw [Registers, e.terminals_eq]
      exact hs.2
  | nonterminal a => exact e.mem a hs.2

theorem Extends.reaches (e : g.Extends h) (hab : g.Reaches a b) : h.Reaches a b := by
  induction hab with
  | refl => exact .refl
  | step _ hr hc ih => exact ih.step (e.mem_rulesOf hr) hc

theorem Extends.standsFor (e : g.Extends h) (hs : g.StandsFor label body) :
    h.StandsFor label body where
  rulesOf_eq := (e.rulesOf_eq label hs.admits.2).trans hs.rulesOf_eq
  ne_start := e.start_eq ▸ hs.ne_start
  normal := hs.normal

theorem Extends.derives_iff (e : g.Extends h) (hc : g.Closed)
    (hr : ∀ b, .nonterminal b ∈ r → b ∈ g.variableLabels) : Derives h r v ↔ Derives g r v :=
  derives_congr e.rulesOf_eq (fun _ _ _ hr _ hb => hc.mem hr hb) hr

theorem Extends.derives_variable_iff (e : g.Extends h) (hc : g.Closed)
    (ha : a ∈ g.variableLabels) :
    Derives h [.nonterminal a] v ↔ Derives g [.nonterminal a] v := by
  refine e.derives_iff hc fun b hb => ?_
  have e : b = a := by injection List.mem_singleton.1 hb
  exact e ▸ ha

theorem Extends.accepts_iff (e : g.Extends h) (hg : g.WellFormed) : h.Accepts v ↔ g.Accepts v := by
  unfold Accepts Generates
  rw [e.start_eq, e.acceptsEmpty_eq, e.derives_variable_iff hg.closed hg.start_mem]

/-- The grammar with one more variable, which has one rule. -/
def withVariable (g : Grammar) (label : String) (body : Rhs) : Grammar :=
  (g.addVariable label).addRule label body

theorem mem_variableLabels_withVariable :
    b ∈ (g.withVariable a body).variableLabels ↔ b ∈ g.variableLabels ∨ b = a := by
  show b ∈ ((g.addVariable a).modifyRules a _).variableLabels ↔ _
  rw [variableLabels_modifyRules]
  exact mem_variableLabels_addVariable

theorem variableLabels_withVariable (ha : a ∉ g.variableLabels) :
    (g.withVariable a body).variableLabels = g.variableLabels ++ [a] := by
  show ((g.addVariable a).modifyRules a _).variableLabels = _
  rw [variableLabels_modifyRules]
  exact (OrderedMap.keys_insertNew ..).trans (if_neg ha)

theorem rulesOf_withVariable (ha : a ∉ g.variableLabels) :
    (g.withVariable a body).rulesOf b = if b = a then [body] else g.rulesOf b := by
  show (((g.addVariable a).modifyRules a _).ruleSet b).toList = _
  rw [ruleSet_modifyRules]
  by_cases e : b = a
  · rw [if_pos ⟨e, mem_variableLabels_addVariable.2 (Or.inr rfl)⟩, if_pos e,
      ruleSet_addVariable, ruleSet_of_not_mem ha]
    rfl
  · rw [if_neg fun h => e h.1, if_neg e, ruleSet_addVariable]
    rfl

theorem extends_withVariable (ha : a ∉ g.variableLabels) (body : Rhs) :
    g.Extends (g.withVariable a body) where
  start_eq := rfl
  terminals_eq := rfl
  acceptsEmpty_eq := rfl
  mem := fun _ hb => mem_variableLabels_withVariable.2 (Or.inl hb)
  rulesOf_eq := by
    intro b hb
    have hne : b ≠ a := fun e => ha (e ▸ hb)
    rw [rulesOf_withVariable ha, if_neg hne]

end Grammar

/-- A variable that is new takes no rule from those that are in the table already. -/
theorem Standalones.Exact.withVariable {S : Standalones} (hS : S.Exact g)
    (ha : a ∉ g.variableLabels) (hn : body.isNormal = true) :
    Standalones.Exact (S.insertNew body a) (g.withVariable a body) := by
  intro b label hl
  rw [Grammar.rulesOf_withVariable ha]
  rw [OrderedMap.get?_insertNew] at hl
  split at hl
  · next hb =>
      cases hl
      rw [if_pos rfl, hb.1]
      exact ⟨rfl, hn⟩
  · obtain ⟨hrules, hb⟩ := hS b label hl
    have hmem : b ∈ g.rulesOf label := by
      rw [hrules]
      exact List.mem_cons_self
    have hne : label ≠ a := fun h => ha (h ▸ Grammar.mem_variableLabels_of_mem hmem)
    rw [if_neg hne]
    exact ⟨hrules, hb⟩

/-! ## What holds of every workspace -/

/-- What conversion keeps, whichever way it ends: only symbols that may stand in a
rule do, every variable derives a word, every terminal is used, and the table of
standalone variables is valid. -/
structure Workspace.Sound (w : Workspace) : Prop where
  start_mem : w.grammar.start ∈ w.grammar.variableLabels
  admits : ∀ s, w.grammar.Uses s → w.grammar.Admits s
  derives : ∀ a ∈ w.grammar.variableLabels, ∃ u, Derives w.grammar [.nonterminal a] u
  uses : ∀ t ∈ w.grammar.terminals, w.grammar.Uses (.terminal t)
  valid : w.standalones.Valid w.grammar

/-- Nothing is lost on the way from one workspace to another, and the rules that
are added are in form. -/
structure Workspace.Grows (w w' : Workspace) : Prop where
  sound : w'.Sound
  grammar : w.grammar.Extends w'.grammar
  known : ∀ body label, w.standalones.get? body = some label →
    w'.standalones.get? body = some label
  mem_or_normal : ∀ a, ∀ r ∈ w'.grammar.rulesOf a, r ∈ w.grammar.rulesOf a ∨ r.isNormal = true

/-- On the way from one workspace to another a sequence was made shorter: what is
abbreviated can be unfolded, and all new variables are in its abbreviations. -/
structure Workspace.Rewrites (w : Workspace) (long short : Rhs) (w' : Workspace) : Prop
    extends w.Grows w' where
  admits : ∀ s ∈ short, w'.grammar.Admits s
  expands : Expands w'.standalones short long
  covers : ∀ a ∈ w'.grammar.variableLabels, a ∈ w.grammar.variableLabels ∨
    ∃ b, .nonterminal b ∈ short ∧ w'.grammar.Reaches b a

namespace Workspace

variable {w w' w'' : Workspace}

theorem Sound.wellFormed (hw : w.Sound) : w.grammar.WellFormed :=
  .intro hw.start_mem fun s hs => (hw.admits s hs).2

theorem Grows.trans (e : w.Grows w') (e' : w'.Grows w'') : w.Grows w'' where
  sound := e'.sound
  grammar := e.grammar.trans e'.grammar
  known := fun body label hl => e'.known _ _ (e.known body label hl)
  mem_or_normal := by
    intro a r hr
    rcases e'.mem_or_normal a r hr with hr | hn
    · exact e.mem_or_normal a r hr
    · exact Or.inr hn

theorem Grows.refl (hw : w.Sound) : w.Grows w where
  sound := hw
  grammar := .refl _
  known := fun _ _ hl => hl
  mem_or_normal := fun _ _ hr => Or.inl hr

theorem Rewrites.refl (hw : w.Sound) (hr : ∀ s ∈ r, w.grammar.Admits s) : w.Rewrites r r w where
  toGrows := .refl hw
  admits := hr
  expands := .refl
  covers := fun _ ha => Or.inl ha

theorem Rewrites.trans (e : w.Rewrites long r w') (e' : w'.Rewrites r short w'') :
    w.Rewrites long short w'' where
  toGrows := e.toGrows.trans e'.toGrows
  admits := e'.admits
  expands := e'.expands.trans (e.expands.mono e'.known)
  covers := by
    intro a ha
    rcases e'.covers a ha with ha | ha
    · rcases e.covers a ha with ha | ⟨b, hb, hba⟩
      · exact Or.inl ha
      · obtain ⟨c, hc, hcb⟩ := e'.expands.reaches e'.sound.valid.exact hb
        exact Or.inr ⟨c, hc, hcb.trans (e'.grammar.reaches hba)⟩
    · exact Or.inr ha

theorem Rewrites.context (e : w.Rewrites long short w') (pre post : Rhs)
    (hpre : ∀ s ∈ pre, w.grammar.Admits s) (hpost : ∀ s ∈ post, w.grammar.Admits s) :
    w.Rewrites (pre ++ long ++ post) (pre ++ short ++ post) w' where
  toGrows := e.toGrows
  admits := by
    intro s hs
    rw [List.mem_append, List.mem_append] at hs
    rcases hs with (hs | hs) | hs
    · exact e.grammar.admits (hpre s hs)
    · exact e.admits s hs
    · exact e.grammar.admits (hpost s hs)
  expands := e.expands.context pre post
  covers := by
    intro a ha
    refine (e.covers a ha).imp_right ?_
    intro h
    obtain ⟨b, hb, hba⟩ := h
    exact ⟨b, List.mem_append_left _ (List.mem_append_right _ hb), hba⟩

/-! ## The standalone variable of a right-hand side -/

section withVariable

variable (hw : w.Sound) (ha : a ∉ w.grammar.variableLabels) (hn : body.isNormal = true)
  (hbody : ∀ s ∈ body, w.grammar.Admits s)
include hw ha hn

theorem standsFor_withVariable : (w.grammar.withVariable a body).StandsFor a body where
  rulesOf_eq := by rw [Grammar.rulesOf_withVariable ha, if_pos rfl]
  ne_start := fun e => ha (e ▸ hw.start_mem)
  normal := hn

include hbody

theorem sound_withVariable :
    Sound ⟨w.grammar.withVariable a body, w.standalones.insertNew body a⟩ := by
  have hext := Grammar.extends_withVariable ha body
  have hstands := standsFor_withVariable hw ha hn
  refine ⟨hext.mem _ hw.start_mem, ?_, ?_, fun t ht => hext.uses (hw.uses t ht), ?_⟩
  · intro s h
    obtain ⟨b, r, hr, hs⟩ := h
    change r ∈ (w.grammar.withVariable a body).rulesOf b at hr
    rw [Grammar.rulesOf_withVariable ha] at hr
    split at hr
    · rw [List.mem_singleton.1 hr] at hs
      exact hext.admits (hbody s hs)
    · exact hext.admits (hw.admits s (.intro hr hs))
  · intro b hb
    have hold : ∀ c ∈ w.grammar.variableLabels,
        ∃ u, Derives (w.grammar.withVariable a body) [.nonterminal c] u := by
      intro c hc
      obtain ⟨u, d⟩ := hw.derives c hc
      exact ⟨u, (hext.derives_variable_iff hw.wellFormed.closed hc).2 d⟩
    rcases Grammar.mem_variableLabels_withVariable.1 hb with hb | rfl
    · exact hold b hb
    · obtain ⟨u, d⟩ := exists_derives fun c hc => hold c (hbody _ hc).2
      exact ⟨u, (derives_standalone_iff hstands.rulesOf_eq).2 d⟩
  · exact Standalones.Valid.insertNew (fun b l hl => hext.standsFor (hw.valid b l hl)) hstands

/-- A new standalone variable takes the place of a right-hand side that has none. -/
theorem rewrites_withVariable (hnone : w.standalones.get? body = none) :
    w.Rewrites body [.nonterminal a]
      ⟨w.grammar.withVariable a body, w.standalones.insertNew body a⟩ := by
  have hget : ∀ b, (w.standalones.insertNew body a).get? b =
      if b = body then some a else w.standalones.get? b := by
    intro b
    rw [OrderedMap.get?_insertNew]
    simp [OrderedMap.not_mem_keys_of_get? hnone]
  refine ⟨⟨sound_withVariable hw ha hn hbody, Grammar.extends_withVariable ha body, ?_, ?_⟩,
    ?_, ?_, ?_⟩
  · intro b l hl
    show (w.standalones.insertNew body a).get? b = _
    rw [hget, if_neg]
    · exact hl
    · intro h
      obtain rfl := h
      rw [hnone] at hl
      cases hl
  · intro b r hr
    change r ∈ (w.grammar.withVariable a body).rulesOf b at hr
    rw [Grammar.rulesOf_withVariable ha] at hr
    split at hr
    · rw [List.mem_singleton.1 hr]
      exact Or.inr hn
    · exact Or.inl hr
  · intro s hs
    rw [List.mem_singleton.1 hs]
    exact (standsFor_withVariable hw ha hn).admits
  · refine .single ?_
    show (w.standalones.insertNew body a).get? body = _
    rw [hget, if_pos rfl]
  · intro b hb
    refine (Grammar.mem_variableLabels_withVariable.1 hb).imp_right ?_
    intro h
    obtain rfl := h
    exact ⟨b, List.mem_cons_self, .refl⟩

end withVariable

end Workspace

namespace Conversion

theorem standaloneFor_ends {w : Workspace} (hw : w.Sound) (hn : body.isNormal = true)
    (hbody : ∀ s ∈ body, w.grammar.Admits s) :
    Ends ((standaloneFor body).run w)
      (fun label w' => w.Rewrites body [.nonterminal label] w') fun _ w' => w' = w := by
  rw [standaloneFor, ends_get_bind]
  split
  · next label hl =>
      refine { Workspace.Rewrites.refl (r := [.nonterminal label]) hw ?_ with
        expands := .single hl }
      intro s hs
      rw [List.mem_singleton.1 hs]
      exact (hw.valid body label hl).admits
  · next hnone =>
      split
      · exact rfl
      · next label hl =>
          have ha := Grammar.hasSymbol_eq_false_iff.1 (Grammar.hasSymbol_of_freshLabel? hl)
          exact Workspace.rewrites_withVariable hw ha.1 hn hbody hnone

end Conversion

end ContextFree
