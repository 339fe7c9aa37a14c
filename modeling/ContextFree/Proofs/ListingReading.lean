import ContextFree.Grammar.Listing
import ContextFree.Proofs.LoadedRules
import ContextFree.Proofs.Processing
import ContextFree.Proofs.TwoReaders

/-!
# A grammar is read back from its listing

The listing of a grammar has a line for every variable. If all labels are single characters,
the alternatives are written without separators, and the compact spelling cuts them up again.
What a character is taken for hangs on three things: a blank is dropped, a bar separates
alternatives, and a mark stands for the empty word. A label that was read in the compact
spelling is none of them, so it is shown as a character that stands for itself, whatever else
it means elsewhere on a line: the label before the arrow is followed by a blank, and then no
arrow and no `#` counts.

A variable without rules would be listed with nothing behind the arrow, and that is read as a
rule for the empty word; so every variable is asked to have a rule.
-/

namespace ContextFree

/-! ## Capitals and blanks -/

namespace Text

variable {c : Char} {texts : List String}

/-- The code points of the blanks beyond ASCII. -/
def wideBlanks : List Nat :=
  [0x85, 0xA0, 0x1680, 0x2000, 0x2001, 0x2002, 0x2003, 0x2004, 0x2005, 0x2006, 0x2007, 0x2008,
    0x2009, 0x200A, 0x2028, 0x2029, 0x202F, 0x205F, 0x3000]

theorem not_blank_of_isUppercase (h : isUppercase c = true) : isBlank c = false := by
  have hranges : ∀ r ∈ uppercaseRanges, ∀ n ∈ wideBlanks, r.contains n = false := by
    decide +kernel
  rw [Bool.eq_false_iff]
  intro hblank
  simp only [isBlank, Bool.or_eq_true, Bool.and_eq_true, decide_eq_true_eq, beq_iff_eq] at hblank
  unfold isUppercase at h
  split at h
  · have hlow : 'A'.toNat ≤ c.toNat :=
      UInt32.le_iff_toNat_le.1 (of_decide_eq_true (Bool.and_eq_true_iff.1 h).1)
    have hA : 'A'.toNat = 65 := rfl
    omega
  · obtain ⟨r, hr, hc⟩ := List.any_eq_true.1 h
    have hwide : c.toNat ∈ wideBlanks := by
      simp only [wideBlanks, List.mem_cons, List.not_mem_nil, or_false]
      omega
    rw [hranges r hr _ hwide] at hc
    cases hc

theorem forall_mem_intercalate {P : Char → Prop} {sep : String} (hsep : ∀ c ∈ sep.toList, P c)
    (h : ∀ t ∈ texts, ∀ c ∈ t.toList, P c) : ∀ c ∈ (sep.intercalate texts).toList, P c := by
  induction texts with
  | nil => exact nofun
  | cons t texts ih =>
      rw [List.forall_mem_cons] at h
      cases texts with
      | nil =>
          rw [String.intercalate_singleton]
          exact h.1
      | cons u texts =>
          rw [String.intercalate_cons_cons, String.toList_append, String.toList_append]
          exact List.forall_mem_append.2 ⟨List.forall_mem_append.2 ⟨h.1, hsep⟩, ih h.2⟩

/-- Lines that are ended by line feeds are the lines of the text. -/
theorem lines_ended (hbreak : ∀ t ∈ texts, ∀ c ∈ t.toList, isLineBreak c = false) :
    lines (String.join (texts.map (· ++ "\n"))).toList = texts.map String.toList := by
  induction texts with
  | nil => rfl
  | cons t texts ih =>
      rw [List.forall_mem_cons] at hbreak
      have hcut : (String.join ((t :: texts).map (· ++ "\n"))).toList =
          t.toList ++ '\n' :: (String.join (texts.map (· ++ "\n"))).toList := by simp
      rw [hcut, lines_append_newline hbreak.1, ih hbreak.2]
      rfl

end Text

theorem isPlain_of_capital {a : String} (hlen : a.length = 1) (h : isVariableLabel a = true) :
    Spelling.compact.isPlain a = true := by
  obtain ⟨c, hc⟩ := List.length_eq_one_iff.1 (String.length_toList.trans hlen)
  have hupper : Text.isUppercase c = true := by simpa [isVariableLabel, hc] using h
  refine Spelling.isPlain_compact_iff.2 ⟨c, ?_, Text.not_blank_of_isUppercase hupper⟩
  rw [← String.toList_inj, hc, String.toList_singleton]

theorem readLeftSide_of_capital {a : String} (hlen : a.length = 1)
    (h : isVariableLabel a = true) : readLeftSide .compact (.text a) = .ok a := by
  have htrim := isTrimmed_of_isPlain (isPlain_of_capital hlen h)
  have hleft : Spelling.compact.isLeftSide a.toList = true := by
    obtain ⟨c, hc⟩ := List.length_eq_one_iff.1 (String.length_toList.trans hlen)
    simpa [Spelling.isLeftSide, isVariableLabel, hc] using h
  unfold readLeftSide
  dsimp only
  rw [String.isEmpty_eq_false_iff.2 htrim.1, htrim.2, hleft, String.ofList_toList]
  rfl

/-! ## Alternatives on a line -/

/-- The label is one character, and it is neither a blank nor a bar nor a mark. -/
structure Symbol.ShowsItself (s : Symbol) : Prop where
  plain : Spelling.compact.isPlain s.label = true
  not_bar : s.label ≠ "|"
  not_mark : s.label ∉ emptyMarks

theorem Symbol.showsItself_of_capital {a : String} (hlen : a.length = 1)
    (h : isVariableLabel a = true) : (Symbol.nonterminal a).ShowsItself where
  plain := isPlain_of_capital hlen h
  not_bar := by
    rintro rfl
    exact absurd h (by decide)
  not_mark := (not_emptyMark_of_isVariableLabel h).2

namespace Rhs

variable {rhs : Rhs}

theorem text_eq_join {s : Symbol} (h : ∀ x ∈ s :: rhs, x.ShowsItself) :
    Rhs.text (s :: rhs) = Spelling.compact.join ((s :: rhs).map Symbol.label) := by
  have hshort : (s :: rhs).any (1 < ·.label.length) = false := by
    refine List.any_eq_false.2 fun x hx => ?_
    obtain ⟨c, hc, -⟩ := Spelling.isPlain_compact_iff.1 (h x hx).plain
    simp [hc]
  rw [text, hshort]
  rfl

theorem split_text (h : ∀ s ∈ rhs, s.ShowsItself) :
    (Spelling.compact.split rhs.text.toList).filter (fun a => !emptyMarks.contains a) =
      rhs.map Symbol.label := by
  cases rhs with
  | nil => decide
  | cons s rhs =>
      have hplain : ∀ a ∈ (s :: rhs).map Symbol.label, Spelling.compact.isPlain a = true :=
        List.forall_mem_map.2 fun x hx => (h x hx).plain
      rw [text_eq_join h, Spelling.split_join hplain]
      refine List.filter_eq_self.2 (List.forall_mem_map.2 fun x hx => ?_)
      simpa using (h x hx).not_mark

theorem not_blank_of_mem_text (h : ∀ s ∈ rhs, s.ShowsItself) :
    ∀ c ∈ rhs.text.toList, Text.isBlank c = false ∧ (c == '|') = false := by
  cases rhs with
  | nil => exact List.forall_mem_singleton.2 ⟨rfl, rfl⟩
  | cons s rhs =>
      rw [text_eq_join h]
      refine Text.forall_mem_intercalate nofun (List.forall_mem_map.2 fun x hx c hc => ?_)
      obtain ⟨d, hd, hblank⟩ := Spelling.isPlain_compact_iff.1 (h x hx).plain
      obtain rfl : c = d := by simpa [hd] using hc
      exact ⟨hblank, beq_eq_false_iff_ne.2 fun e => (h x hx).not_bar (hd.trans (e ▸ rfl))⟩

end Rhs

namespace Spelling

variable {t rest : String} {rules : List Rhs}

/-- A text before a bar is an alternative of its own. -/
theorem alternatives_append_bar (ht : ∀ c ∈ t.toList, (c == '|') = false) :
    compact.alternatives (t ++ " | " ++ rest) =
      (compact.split t.toList).filter (fun a => !emptyMarks.contains a) ::
        compact.alternatives rest := by
  have hcut : (t ++ " | " ++ rest).toList = (t.toList ++ [' ']) ++ '|' :: ([' '] ++ rest.toList) := by
    simp
  have hbar : ∀ c ∈ t.toList ++ [' '], (c == '|') = false :=
    List.forall_mem_append.2 ⟨ht, List.forall_mem_singleton.2 rfl⟩
  have hsplit : compact.split (t.toList ++ [' ']) = compact.split t.toList := by
    simp [split, show Text.isBlank ' ' = true from rfl]
  have hrest : (Text.pieces (· == '|') ([' '] ++ rest.toList)).map (fun alternative =>
      (compact.split alternative).filter fun a => !emptyMarks.contains a) =
        compact.alternatives rest := by
    have hblank : compact.alternatives (String.ofList ([' '] ++ rest.toList)) =
        compact.alternatives (String.ofList rest.toList) :=
      alternatives_append_of_blank (List.forall_mem_singleton.2 rfl)
    rwa [String.ofList_toList, alternatives, String.toList_ofList] at hblank
  rw [alternatives, hcut, Text.pieces_append_cut hbar rfl, List.map_cons, hsplit, hrest]

/-- The alternatives on a line are cut up into the labels of the rules. -/
theorem alternatives_intercalate (hne : rules ≠ []) (h : ∀ r ∈ rules, ∀ s ∈ r, s.ShowsItself) :
    compact.alternatives (" | ".intercalate (rules.map Rhs.text)) =
      rules.map (·.map Symbol.label) := by
  induction rules with
  | nil => exact absurd rfl hne
  | cons r rules ih =>
      rw [List.forall_mem_cons] at h
      have hbar : ∀ c ∈ r.text.toList, (c == '|') = false :=
        fun c hc => (Rhs.not_blank_of_mem_text h.1 c hc).2
      cases rules with
      | nil =>
          rw [List.map_singleton, String.intercalate_singleton, alternatives,
            Text.pieces_eq_singleton hbar, List.map_singleton, Rhs.split_text h.1]
          rfl
      | cons r' rules =>
          rw [List.map_cons, List.map_cons, String.intercalate_cons_cons,
            alternatives_append_bar hbar, Rhs.split_text h.1, ← List.map_cons,
            ih (List.cons_ne_nil r' rules) h.2]
          rfl

theorem ne_bar_of_mem_alternatives {text a : String} {labels : List String}
    (h : labels ∈ compact.alternatives text) (ha : a ∈ labels) : a ≠ "|" := by
  obtain ⟨cs, hcs, rfl⟩ := List.mem_map.1 h
  obtain ⟨c, hc, rfl⟩ := List.mem_map.1 (List.mem_filter.1 ha).1
  intro e
  have hbar := Text.not_cut_of_mem_pieces hcs c (List.mem_filter.1 hc).1
  obtain rfl : c = '|' := by simpa using congrArg String.toList e
  cases hbar

end Spelling

/-! ## The lines of a listing -/

namespace Grammar

variable {g g' : Grammar} {start : Option String} {source : String} {bounded : Bool}

theorem render_eq (g : Grammar) : g.render = String.join
    ((g.variableLabels.map fun a => lineOf (a, alternatives (g.ruleSet a))).map (· ++ "\n")) := by
  simp [render, entries_eq, lineOf, Function.comp_def]

theorem readLines_render (hlabels : ∀ a ∈ g.variableLabels, readLeftSide .compact (.text a) = .ok a)
    (hrules : ∀ a ∈ g.variableLabels, g.rulesOf a ≠ [])
    (hshows : ∀ a, ∀ rhs ∈ g.rulesOf a, ∀ s ∈ rhs, s.ShowsItself) :
    readLines .compact g.render =
      .ok (g.variableLabels.map fun a => (a, (g.rulesOf a).map (·.map Symbol.label))) := by
  have hbreak : ∀ a, ∀ c ∈ (alternatives (g.ruleSet a)).toList, Text.isLineBreak c = false := by
    refine fun a => Text.forall_mem_intercalate (no_break_of_all rfl) ?_
    refine List.forall_mem_map.2 fun rhs hr c hc => ?_
    exact Text.isLineBreak_of_not_blank (Rhs.not_blank_of_mem_text (hshows a rhs hr) c hc).1
  have hholds : ∀ a ∈ g.variableLabels, HoldsRule .compact
      (lineOf (a, alternatives (g.ruleSet a))).toList
      (a, (g.rulesOf a).map (·.map Symbol.label)) := by
    intro a ha
    rw [← Spelling.alternatives_intercalate (hrules a ha) (hshows a)]
    exact holdsRule_lineOf (r := (a, alternatives (g.ruleSet a))) (hlabels a ha) (hbreak a)
  refine readLines_of_lines ?_ hholds
  rw [render_eq, Text.lines_ended, List.map_map]
  · rfl
  · exact List.forall_mem_map.2 fun a ha => (hholds a ha).no_break

theorem ofText_some_eq_ok {start : String} {loaded : List (String × List (List String))}
    {spelling : Spelling} (bounded : Bool) (hloaded : readLines spelling source = .ok loaded)
    (hne : start ≠ "") (hmem : start ∈ loaded.map Prod.fst) :
    ofText spelling bounded (some start) source =
      .ok (loaded.foldl (fun g r => g.load r.1 r.2) (blank start bounded)) := by
  obtain ⟨r, loaded, rfl⟩ : ∃ r l, loaded = r :: l := by
    refine List.exists_cons_of_ne_nil ?_
    rintro rfl
    cases hmem
  have hstart : ((some start).filter (!·.isEmpty)).getD r.1 = start := by
    simp [Option.filter, String.isEmpty_eq_false_iff.2 hne]
  unfold ofText
  rw [hloaded]
  dsimp only [bind, Except.bind]
  rw [hstart]
  exact if_pos (List.contains_iff_mem.2 hmem)

/-- A grammar that was read in the compact spelling and then simplified or converted is read
back from its listing if its variables are single capitals and have rules. -/
theorem exists_ofText_render (h : ofText .compact bounded start source = .ok g)
    (hp : g.Processed g')
    (hlabels : ∀ a ∈ g'.variableLabels, a.length = 1 ∧ isVariableLabel a = true)
    (hrules : ∀ a ∈ g'.variableLabels, g'.rulesOf a ≠ []) (bounded' : Bool) :
    ∃ k, ofText .compact bounded' (some g'.start) g'.render = .ok k ∧ g'.SameRules k := by
  have hg : g.IsRead := .text h
  obtain ⟨hwf, huses⟩ := hp.uses hg.wellFormed
  have hfits : ∀ s, g'.Uses s → s.FitsLabel :=
    fun s => hp.fitsLabel hg fun a ha => (hlabels a ha).2
  have hterminals : ∀ t ∈ g.terminals, Spelling.compact.isPlain t = true ∧ t ≠ "|" :=
    forall_terminals_ofText (fun _ _ hl _ ha => ⟨isPlain_of_mem_alternatives hl ha,
      Spelling.ne_bar_of_mem_alternatives hl ha⟩) h
  have hshows : ∀ a, ∀ rhs ∈ g'.rulesOf a, ∀ s ∈ rhs, s.ShowsItself := by
    intro a rhs hr s hs
    cases s with
    | terminal t =>
        obtain ⟨hplain, hbar⟩ := hterminals t
          (hg.wellFormed.terminal_mem t (huses t (.intro hr hs)))
        exact ⟨hplain, hbar, (hfits _ (.intro hr hs)).not_mark⟩
    | nonterminal b =>
        obtain ⟨hlen, hcapital⟩ := hlabels b (hwf.closed.mem hr hs)
        exact Symbol.showsItself_of_capital hlen hcapital
  have hstart := hlabels g'.start hwf.start_mem
  refine ⟨_, ofText_some_eq_ok bounded' (readLines_render (fun a ha =>
    readLeftSide_of_capital (hlabels a ha).1 (hlabels a ha).2) hrules hshows)
    (not_emptyMark_of_isVariableLabel hstart.2).1 (by simpa using hwf.start_mem), ?_⟩
  refine sameRules_loadAll (k := blank g'.start bounded') hwf rfl (fun _ => rfl) nofun ?_
  intro a _
  rw [List.map_map]
  exact (List.map_congr_left fun rhs hr => symbolsOfLabels_map_label fun s hs =>
    hfits s (.intro hr hs)).trans (List.map_id _)

/-- Terminals that look like an arrow or a comment, and alternatives without labels; and a
grammar in normal form, with new variables. -/
theorem exists_ofText_render_arrows :
    (∃ g, ofText .compact false none "S → ->#|λ|a→A\nA->9|ε||≥" = .ok g ∧
      ∃ k, ofText .compact true (some g.start) g.render = .ok k ∧ g.SameRules k) ∧
    ∃ g', (Transform.toNormalForm none 10).run matchedLetters = .ok () g' ∧
      ∃ k, ofText .compact false (some g'.start) g'.render = .ok k ∧ g'.SameRules k := by
  refine ⟨?_, ?_⟩
  · obtain ⟨g, h, hlabels, hrules⟩ : ∃ g,
        ofText .compact false none "S → ->#|λ|a→A\nA->9|ε||≥" = .ok g ∧
          (∀ a ∈ g.variableLabels, a.length = 1 ∧ isVariableLabel a = true) ∧
          ∀ a ∈ g.variableLabels, g.rulesOf a ≠ [] :=
      ⟨_, rfl, by decide +kernel, by decide +kernel⟩
    exact ⟨g, h, exists_ofText_render h .refl hlabels hrules true⟩
  · have hread : ofText .compact false none "S -> aSb | λ" = .ok matchedLetters := rfl
    obtain ⟨g', h, hlabels, hrules⟩ : ∃ g',
        (Transform.toNormalForm none 10).run matchedLetters = .ok () g' ∧
          (∀ a ∈ g'.variableLabels, a.length = 1 ∧ isVariableLabel a = true) ∧
          ∀ a ∈ g'.variableLabels, g'.rulesOf a ≠ [] :=
      ⟨_, rfl, by decide +kernel, by decide +kernel⟩
    exact ⟨g', h, exists_ofText_render hread (.toNormalForm .refl h) hlabels hrules false⟩

end Grammar

end ContextFree
