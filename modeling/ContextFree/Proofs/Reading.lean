import ContextFree.Derivation
import ContextFree.Reading.Line
import ContextFree.Proofs.Loading

/-!
# What readers make is well-formed

Both readers load the rules of a source into a grammar without rules. The symbols
that are registered are those of the source, also those variables that the source
never defines, and so all symbols that are used are among them. The start symbol
is too, because the readers refuse a source that does not define it.
-/

namespace ContextFree

theorem bind_eq_ok_iff {ε α β : Type} {x : Except ε α} {f : α → Except ε β} {b : β} :
    x >>= f = .ok b ↔ ∃ a, x = .ok a ∧ f a = .ok b := by
  cases x with
  | error e =>
      refine ⟨fun h => ?_, fun ⟨_, h, _⟩ => ?_⟩
      · cases h
      · cases h
  | ok a =>
      refine ⟨fun h => ⟨a, rfl, h⟩, fun ⟨_, h, hf⟩ => ?_⟩
      cases h
      exact hf

theorem exists_of_mapM_eq_ok {ε α β : Type} {f : α → Except ε β} {as : List α} {bs : List β}
    (h : as.mapM f = .ok bs) {b : β} (hb : b ∈ bs) : ∃ a ∈ as, f a = .ok b := by
  induction as generalizing bs with
  | nil =>
      cases h
      cases hb
  | cons a as ih =>
      rw [List.mapM_cons] at h
      obtain ⟨b', hb', h⟩ := bind_eq_ok_iff.1 h
      obtain ⟨bs', hbs', h⟩ := bind_eq_ok_iff.1 h
      cases h
      rcases List.mem_cons.1 hb with rfl | hb
      · exact ⟨a, List.mem_cons_self, hb'⟩
      · obtain ⟨a', ha', h⟩ := ih hbs' hb
        exact ⟨a', List.mem_cons_of_mem _ ha', h⟩

namespace Grammar

variable {g : Grammar} {start : String}

/-- What holds of a grammar while it is being read. -/
structure Loading (start : String) (g : Grammar) : Prop where
  start_eq : g.start = start
  acceptsEmpty_eq : g.acceptsEmpty = false
  registers : ∀ s, g.Uses s → g.Registers s

theorem Loading.loadAll (hg : g.Loading start) (rules : List (String × List (List String))) :
    (rules.foldl (fun g r => g.load r.1 r.2) g).Loading start where
  start_eq := by
    obtain ⟨_, _, e⟩ := sameSettings_loadAll rules g
    rw [e]
    exact hg.start_eq
  acceptsEmpty_eq := by
    obtain ⟨_, _, e⟩ := sameSettings_loadAll rules g
    rw [e]
    exact hg.acceptsEmpty_eq
  registers := by
    rintro s ⟨a, rhs, hrhs, hs⟩
    rcases mem_rulesOf_loadAll.1 hrhs with hrhs | ⟨r, hr, -, labels, hl, rfl⟩
    · exact registers_loadAll.2 (Or.inl (hg.registers s (.intro hrhs hs)))
    · exact registers_loadAll.2 (Or.inr ⟨r, hr, Or.inr ⟨labels, hl, hs⟩⟩)

theorem loading_blank (start : String) (bounded : Bool) : (blank start bounded).Loading start :=
  ⟨rfl, rfl, fun _ ⟨_, _, hr, _⟩ => nomatch hr⟩

/-! ## The readers -/

/-- Some reader made the grammar from some source. -/
inductive IsRead : Grammar → Prop where
  | text {spelling : Spelling} {bounded : Bool} {start : Option String} {source : String}
      {g : Grammar} : Grammar.ofText spelling bounded start source = .ok g → IsRead g
  | entries {spelling : Spelling} {bounded : Bool} {start productions : Json} {g : Grammar} :
      Grammar.ofEntries spelling bounded start productions = .ok g → IsRead g

/-- The words in which a number of letters `a` is followed by as many letters `b`. -/
def matchedLetters : Grammar :=
  { blank "S" false with
    terminals := ⟨["a", "b"], by decide⟩
    rules := ⟨[("S", ⟨[[.terminal "a", .nonterminal "S", .terminal "b"], []], by decide⟩)],
      by decide⟩ }

theorem isRead_matchedLetters : matchedLetters.IsRead :=
  .text (show Grammar.ofText .compact false none "S -> aSb | λ" = .ok _ from rfl)

/-- Some line or some entry of a source was read as the rule. -/
inductive IsReadRule : String × List (List String) → Prop where
  | line {spelling : Spelling} {number : Nat} {line : List Char}
      {rule : String × List (List String)} :
      readLine spelling number line = .ok rule → IsReadRule rule
  | entry {spelling : Spelling} {entry : Json × Json} {rule : String × List (List String)} :
      readEntry spelling entry = .ok rule → IsReadRule rule

theorem exists_of_ofText {spelling : Spelling} {bounded : Bool} {first : Option String}
    {source : String} (h : ofText spelling bounded first source = .ok g) :
    ∃ start rules, readLines spelling source = .ok rules ∧ start ∈ rules.map Prod.fst ∧
      rules.foldl (fun g r => g.load r.1 r.2) (blank start bounded) = g := by
  obtain ⟨rules, hrules, h⟩ := bind_eq_ok_iff.1 h
  split at h
  · cases h
  · dsimp only at h
    split at h
    · next hmem =>
        injection h with h
        exact ⟨_, _, hrules, List.contains_iff_mem.1 hmem, h⟩
    · cases h

/-- Readers load rules into a grammar without rules, and one of them is for the start symbol.
That the start symbol is registered first is one more entry, with nothing on its right. -/
theorem IsRead.exists_rules (hg : g.IsRead) :
    ∃ (start : String) (bounded : Bool) (rules : List (String × List (List String))),
      start ∈ rules.map Prod.fst ∧ (∀ r ∈ rules, IsReadRule r) ∧
      rules.foldl (fun g r => g.load r.1 r.2) (blank start bounded) = g := by
  cases hg with
  | @text spelling bounded start source _ h =>
      obtain ⟨start, rules, hrules, hmem, h⟩ := exists_of_ofText h
      refine ⟨start, bounded, rules, hmem, fun r hr => ?_, h⟩
      obtain ⟨l, -, hl⟩ := exists_of_mapM_eq_ok hrules hr
      exact .line hl
  | @entries spelling bounded start productions _ h =>
      unfold ofEntries at h
      split at h
      · next s =>
          dsimp only at h
          split at h
          · cases h
          obtain ⟨start, hstart, h⟩ := bind_eq_ok_iff.1 h
          obtain ⟨entries, -, h⟩ := bind_eq_ok_iff.1 h
          split at h
          · cases h
          obtain ⟨rules, hrules, h⟩ := bind_eq_ok_iff.1 h
          split at h
          · injection h with h
            have hfirst : readEntry spelling (.text s, .array []) = .ok (start, []) :=
              bind_eq_ok_iff.2 ⟨_, hstart, rfl⟩
            refine ⟨start, bounded, (start, []) :: rules, List.mem_cons_self,
              List.forall_mem_cons.2 ⟨.entry hfirst, fun r hr => ?_⟩, h⟩
            obtain ⟨e, -, he⟩ := exists_of_mapM_eq_ok hrules hr
            exact .entry he
          · cases h
      · cases h

theorem IsRead.exists_loading (hg : g.IsRead) : g.Loading g.start ∧ g.start ∈ g.variableLabels := by
  obtain ⟨start, bounded, rules, hmem, -, rfl⟩ := hg.exists_rules
  have hload := (loading_blank start bounded).loadAll rules
  obtain ⟨r, hr, rfl⟩ := List.mem_map.1 hmem
  rw [hload.start_eq]
  exact ⟨hload, (registers_loadAll (s := .nonterminal r.1)).2 (Or.inr ⟨r, hr, Or.inl rfl⟩)⟩

theorem IsRead.wellFormed (hg : g.IsRead) : g.WellFormed :=
  .intro hg.exists_loading.2 hg.exists_loading.1.registers

/-- Nothing is remembered of the empty word yet. -/
theorem IsRead.accepts_iff {w : Word} (hg : g.IsRead) : g.Accepts w ↔ g.Generates w := by
  unfold Accepts
  rw [hg.exists_loading.1.acceptsEmpty_eq]
  simp

end Grammar

end ContextFree
