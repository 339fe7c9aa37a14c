import ContextFree.Recognition
import ContextFree.Proofs.Derivation
import ContextFree.Proofs.WellFormed

/-!
# The table of a recognition is exact

A cell of the table is exact if it holds of a variable just when the variable
derives the substring of the cell. In normal form a substring of one symbol is
derived through a terminal, and a longer one through two nonterminals that derive
the two parts of a split, neither of them empty. So the first row is exact, and a
row is exact if those before it are.

The split of a cell is an arithmetic of offsets and lengths. It is settled once,
in `slice_eq_append_iff`: the splits of a substring into two parts that are not
empty are those at the places that a cell goes through.
-/

namespace ContextFree

variable {g : Grammar} {a b c t : String} {rhs : Rhs} {u v w : Word} {i k l n s : Nat}

/-! ## Derivations in normal form -/

namespace Grammar

theorem isNormal_iff : g.isNormal = true ↔ ∀ a, ∀ rhs ∈ g.rulesOf a, rhs.isNormal = true := by
  rw [isNormal, List.all_eq_true]
  exact ⟨fun h a rhs hr => h ⟨a, rhs⟩ (mem_productions.2 hr),
    fun h p hp => h p.lhs p.rhs (mem_productions.1 hp)⟩

end Grammar

theorem nil_not_mem_of_isNormal (hn : g.isNormal = true) (a : String) : [] ∉ g.rulesOf a := by
  intro h
  have hnil := Grammar.isNormal_iff.1 hn a [] h
  cases hnil

theorem derives_symbol_iff (hn : g.isNormal = true) :
    Derives g [.nonterminal a] [t] ↔ [.terminal t] ∈ g.rulesOf a := by
  rw [derives_variable_iff]
  constructor
  · intro hx
    obtain ⟨rhs, hr, d⟩ := hx
    rcases Rhs.isNormal_iff.1 (Grammar.isNormal_iff.1 hn a rhs hr) with ⟨x, rfl⟩ | ⟨b, c, rfl⟩
    · obtain ⟨v, e, -⟩ := derives_terminal_cons_iff.1 d
      cases e
      exact hr
    · have := d.length_le (nil_not_mem_of_isNormal hn)
      simp at this
  · exact fun hr => ⟨_, hr, .terminal .nil⟩

/-- A longer word is derived through two nonterminals, from two parts that are not
empty. -/
theorem derives_long_iff (hn : g.isNormal = true) (hw : 2 ≤ w.length) :
    Derives g [.nonterminal a] w ↔
      ∃ b c, [.nonterminal b, .nonterminal c] ∈ g.rulesOf a ∧ ∃ u v, w = u ++ v ∧ u ≠ [] ∧ v ≠ [] ∧
        Derives g [.nonterminal b] u ∧ Derives g [.nonterminal c] v := by
  have hpos : ∀ {b u}, Derives g [.nonterminal b] u → u ≠ [] := by
    intro b u d hx
    obtain rfl := hx
    exact not_derives_nil (nil_not_mem_of_isNormal hn) b d
  rw [derives_variable_iff]
  refine ⟨fun hx => ?_, fun hx => ?_⟩
  · obtain ⟨rhs, hr, d⟩ := hx
    rcases Rhs.isNormal_iff.1 (Grammar.isNormal_iff.1 hn a rhs hr) with ⟨x, rfl⟩ | ⟨b, c, rfl⟩
    · obtain ⟨v, rfl, dv⟩ := derives_terminal_cons_iff.1 d
      rw [derives_nil_iff.1 dv] at hw
      simp at hw
    · obtain ⟨u, v, rfl, du, dv⟩ := derives_nonterminal_cons_iff.1 d
      exact ⟨b, c, hr, u, v, rfl, hpos du, hpos dv, du, dv⟩
  · obtain ⟨b, c, hr, u, v, rfl, -, -, du, dv⟩ := hx
    exact ⟨_, hr, derives_nonterminal_cons_iff.2 ⟨u, v, rfl, du, dv⟩⟩

/-! ## Substrings -/

/-- The substring of a length at an offset. -/
def slice (w : Word) (s l : Nat) : Word := (w.drop s).take l

theorem length_slice (h : s + l ≤ w.length) : (slice w s l).length = l := by
  rw [slice, List.length_take, List.length_drop]
  omega

theorem slice_all (w : Word) : slice w 0 w.length = w := by
  rw [slice, List.drop_zero, List.take_length]

theorem slice_one (h : w[s]? = some t) : slice w s 1 = [t] := by
  obtain ⟨hlt, rfl⟩ := List.getElem?_eq_some_iff.1 h
  rw [slice, List.drop_eq_getElem_cons hlt, List.take_succ_cons, List.take_zero]

/-- Every split of a substring into parts that are not empty is a split after some
symbol. -/
theorem slice_eq_append_iff (h : s + (k + 1) ≤ w.length) :
    (slice w s (k + 1) = u ++ v ∧ u ≠ [] ∧ v ≠ []) ↔
      ∃ i < k, u = slice w s (i + 1) ∧ v = slice w (s + i + 1) (k - i) := by
  refine ⟨fun hx => ?_, fun hx => ?_⟩
  · obtain ⟨e, hu, hv⟩ := hx
    have hlen := congrArg List.length e
    rw [length_slice h, List.length_append] at hlen
    have hu := List.length_pos_iff.2 hu
    have hv := List.length_pos_iff.2 hv
    refine ⟨u.length - 1, by omega, ?_, ?_⟩
    · have htake : (slice w s (k + 1)).take u.length = u := by rw [e, List.take_left]
      rw [slice, List.take_take, Nat.min_eq_left (by omega)] at htake
      rw [Nat.sub_add_cancel hu, slice, htake]
    · have hdrop : (slice w s (k + 1)).drop u.length = v := by rw [e, List.drop_left]
      have hplace : s + (u.length - 1) + 1 = s + u.length := by omega
      have hrest : k - (u.length - 1) = k + 1 - u.length := by omega
      rw [slice, List.drop_take, List.drop_drop] at hdrop
      rw [hplace, hrest, slice, hdrop]
  · obtain ⟨i, hi, rfl, rfl⟩ := hx
    have hlen : k + 1 = (i + 1) + (k - i) := by omega
    refine ⟨?_, ?_, ?_⟩
    · rw [hlen, slice, List.take_add, List.drop_drop]
      rfl
    · intro e
      have := congrArg List.length e
      rw [length_slice (by omega)] at this
      simp at this
    · intro e
      have := congrArg List.length e
      rw [length_slice (by omega)] at this
      rw [List.length_nil] at this
      omega

/-! ## Cells -/

namespace Recognition

/-- A cell says of every variable whether it derives a word. -/
structure ExactCell (g : Grammar) (u : Word) (cell : Cell) : Prop where
  size_eq : cell.size = g.variableLabels.length
  getElem?_iff : ∀ (i : Nat) (a : String), g.variableLabels[i]? = some a →
    (cell[i]? = some true ↔ Derives g [.nonterminal a] u)

/-- A row has an exact cell for every substring of its length. -/
structure ExactRow (g : Grammar) (w : Word) (l : Nat) (row : Row) : Prop where
  size_eq : row.size = w.length - l + 1
  getElem?_eq : ∀ s : Nat, s + l ≤ w.length → ∃ cell, row[s]? = some cell ∧ ExactCell g (slice w s l) cell

/-- The rows of the lengths from one to the given one are there and exact. -/
structure ExactRows (g : Grammar) (w : Word) (n : Nat) (rows : Array Row) : Prop where
  size_eq : rows.size = n
  getElem?_eq : ∀ l, 1 ≤ l → l ≤ n → ∃ row, rows[l - 1]? = some row ∧ ExactRow g w l row

variable {cell : Cell} {rows : Array Row}

theorem ExactCell.holds_iff (h : ExactCell g u cell) (ha : a ∈ g.variableLabels) :
    holds cell (g.indexOf a) = true ↔ Derives g [.nonterminal a] u := by
  have hlt : g.indexOf a < g.variableLabels.length := List.idxOf_lt_length_of_mem ha
  have hget : g.variableLabels[g.indexOf a]? = some a := by
    rw [List.getElem?_eq_getElem hlt]
    exact congrArg some (List.getElem_idxOf hlt)
  rw [← h.getElem?_iff _ a hget, holds, Array.getD_eq_getD_getElem?]
  cases cell[g.indexOf a]? <;> simp

theorem ExactRows.exactCell (h : ExactRows g w n rows) (hl : 1 ≤ l) (hn : l ≤ n)
    (hs : s + l ≤ w.length) : ExactCell g (slice w s l) (cellAt rows l s) := by
  obtain ⟨row, hrow, hr⟩ := h.getElem?_eq l hl hn
  obtain ⟨cell, hcell, hc⟩ := hr.getElem?_eq s hs
  simp only [cellAt, Array.getD_eq_getD_getElem?, hrow, hcell, Option.getD_some]
  exact hc

theorem exactCell_of_entries {f : String × OrderedSet Rhs → Bool}
    (h : ∀ a ∈ g.variableLabels, f (a, g.ruleSet a) = true ↔ Derives g [.nonterminal a] u) :
    ExactCell g u (g.rules.entries.map f).toArray where
  size_eq := by simp [Grammar.variableLabels, OrderedMap.keys]
  getElem?_iff := by
    intro i a ha
    rw [Grammar.variableLabels, OrderedMap.keys, List.getElem?_map] at ha
    obtain ⟨e, he, rfl⟩ := Option.map_eq_some_iff.1 ha
    obtain ⟨hmem, hrules⟩ := Grammar.mem_entries_iff.1 (List.mem_of_getElem? he)
    rw [List.getElem?_toArray, List.getElem?_map, he, ← h e.1 hmem, hrules]
    simp

theorem exactCell_lexicalCell (hn : g.isNormal = true) (t : String) :
    ExactCell g [t] (g.lexicalCell t) := by
  refine exactCell_of_entries fun a _ => ?_
  rw [List.contains_iff_mem, derives_symbol_iff hn]
  rfl

/-! ## Rows -/

theorem exactRow_lexical (hn : g.isNormal = true) (hw : w ≠ []) :
    ExactRow g w 1 (w.map g.lexicalCell).toArray where
  size_eq := by
    have := List.length_pos_iff.2 hw
    rw [List.size_toArray, List.length_map]
    omega
  getElem?_eq := by
    intro s hs
    obtain ⟨t, ht⟩ : ∃ t, w[s]? = some t := ⟨w[s], List.getElem?_eq_getElem hs⟩
    refine ⟨g.lexicalCell t, by simp [ht], ?_⟩
    rw [slice_one ht]
    exact exactCell_lexicalCell hn t

theorem mem_pairs_iff {i j : Nat} :
    (i, j) ∈ ((g.ruleSet a).toList.filterMap fun
      | [.nonterminal b, .nonterminal c] => some (g.indexOf b, g.indexOf c)
      | _ => none) ↔
      ∃ b c, [.nonterminal b, .nonterminal c] ∈ g.rulesOf a ∧ i = g.indexOf b ∧ j = g.indexOf c := by
  rw [List.mem_filterMap]
  refine ⟨fun hx => ?_, fun hx => ?_⟩
  · obtain ⟨rhs, hr, h⟩ := hx
    split at h
    · next b c =>
        injection h with h
        injection h with hi hj
        exact ⟨b, c, hr, hi.symm, hj.symm⟩
    · cases h
  · obtain ⟨b, c, hr, rfl, rfl⟩ := hx
    exact ⟨_, hr, rfl⟩

/-- The splits of a cell find just the derivations of two variables from two parts
that are not empty. -/
theorem any_splits_iff (h : ExactRows g w k rows) (hs : s + (k + 1) ≤ w.length)
    (hb : b ∈ g.variableLabels) (hc : c ∈ g.variableLabels) :
    ((splits rows s).any fun p => holds p.1 (g.indexOf b) && holds p.2 (g.indexOf c)) = true ↔
      ∃ u v, slice w s (k + 1) = u ++ v ∧ u ≠ [] ∧ v ≠ [] ∧
        Derives g [.nonterminal b] u ∧ Derives g [.nonterminal c] v := by
  have hcells : ∀ i < k,
      ((holds (cellAt rows (i + 1) s) (g.indexOf b) &&
        holds (cellAt rows (k - i) (s + i + 1)) (g.indexOf c)) = true ↔
        Derives g [.nonterminal b] (slice w s (i + 1)) ∧
          Derives g [.nonterminal c] (slice w (s + i + 1) (k - i))) := by
    intro i hi
    rw [Bool.and_eq_true, (h.exactCell (by omega) (by omega) (by omega)).holds_iff hb,
      (h.exactCell (by omega) (by omega) (by omega)).holds_iff hc]
  rw [splits, h.size_eq, List.any_map, List.any_eq_true]
  refine ⟨fun hx => ?_, fun hx => ?_⟩
  · obtain ⟨i, hi, hp⟩ := hx
    have hi := List.mem_range.1 hi
    obtain ⟨e, hu, hv⟩ := (slice_eq_append_iff hs).2 ⟨i, hi, rfl, rfl⟩
    exact ⟨_, _, e, hu, hv, (hcells i hi).1 hp⟩
  · obtain ⟨u, v, e, hu, hv, d⟩ := hx
    obtain ⟨i, hi, rfl, rfl⟩ := (slice_eq_append_iff hs).1 ⟨e, hu, hv⟩
    exact ⟨i, List.mem_range.2 hi, (hcells i hi).2 d⟩

theorem exactCell_splitCell (hn : g.isNormal = true) (hc : g.Closed) (h : ExactRows g w k rows)
    (hk : 1 ≤ k) (hs : s + (k + 1) ≤ w.length) :
    ExactCell g (slice w s (k + 1)) (splitCell g.pairRules (splits rows s)) := by
  have hlen : 2 ≤ (slice w s (k + 1)).length := by
    rw [length_slice hs]
    omega
  unfold splitCell Grammar.pairRules
  rw [List.map_map]
  refine exactCell_of_entries fun a _ => ?_
  rw [derives_long_iff hn hlen]
  refine List.any_eq_true.trans ?_
  refine ⟨fun hx => ?_, fun hx => ?_⟩
  · obtain ⟨⟨i, j⟩, hp, hsplit⟩ := hx
    obtain ⟨b, c, hr, rfl, rfl⟩ := mem_pairs_iff.1 hp
    exact ⟨b, c, hr, (any_splits_iff h hs (hc.mem hr (by simp)) (hc.mem hr (by simp))).1 hsplit⟩
  · obtain ⟨b, c, hr, hsplit⟩ := hx
    exact ⟨_, mem_pairs_iff.2 ⟨b, c, hr, rfl, rfl⟩,
      (any_splits_iff h hs (hc.mem hr (by simp)) (hc.mem hr (by simp))).2 hsplit⟩

theorem exactRow_nextRow (hn : g.isNormal = true) (hc : g.Closed) (h : ExactRows g w k rows)
    (hk : 1 ≤ k) (hlt : k < w.length) :
    ExactRow g w (k + 1) (nextRow g.pairRules w.length rows) where
  size_eq := by
    rw [nextRow, List.size_toArray, List.length_map, List.length_range, h.size_eq]
    omega
  getElem?_eq := by
    intro s hs
    refine ⟨splitCell g.pairRules (splits rows s), ?_, exactCell_splitCell hn hc h hk hs⟩
    have hrange : (List.range (w.length - rows.size))[s]? = some s := by
      rw [h.size_eq]
      exact List.getElem?_range (by omega)
    rw [nextRow, List.getElem?_toArray, List.getElem?_map, hrange]
    rfl

theorem ExactRows.push {row : Row} (h : ExactRows g w n rows) (hrow : ExactRow g w (n + 1) row) :
    ExactRows g w (n + 1) (rows.push row) where
  size_eq := by rw [Array.size_push, h.size_eq]
  getElem?_eq := by
    intro l hl hle
    rw [Array.getElem?_push, h.size_eq]
    by_cases e : l = n + 1
    · subst e
      exact ⟨row, if_pos rfl, hrow⟩
    · have hne : l - 1 ≠ n := by omega
      rw [if_neg hne]
      exact h.getElem?_eq l hl (by omega)

theorem exactRows_rowsFrom (hn : g.isNormal = true) (hc : g.Closed) (hk : k < w.length) :
    ExactRows g w (k + 1) (rowsFrom g.pairRules (w.map g.lexicalCell).toArray k) := by
  have hw : w ≠ [] := List.length_pos_iff.1 (by omega)
  induction k with
  | zero =>
      refine ⟨rfl, fun l hl hle => ?_⟩
      obtain rfl : l = 1 := by omega
      exact ⟨_, rfl, exactRow_lexical hn hw⟩
  | succ k ih =>
      have hrows := ih (by omega)
      have hsize : (w.map g.lexicalCell).toArray.size = w.length := by simp
      rw [rowsFrom, hsize]
      exact hrows.push (exactRow_nextRow hn hc hrows (by omega) hk)

theorem exactRows_tableOf (hn : g.isNormal = true) (hc : g.Closed) (hw : w ≠ []) :
    ExactRows g w w.length (tableOf g w) := by
  have hpos := List.length_pos_iff.2 hw
  have h := exactRows_rowsFrom hn hc (w := w) (k := w.length - 1) (by omega)
  rwa [Nat.sub_add_cancel hpos] at h

end Recognition

/-! ## The answer -/

namespace Grammar

theorem recognitionError?_eq_none_iff :
    g.recognitionError? = none ↔ g.isNormal = true ∧ g.Closed := by
  rw [recognitionError?, List.findSome?_eq_none_iff]
  refine ⟨fun h => ?_, fun hx p hp => ?_⟩
  · have hrule : ∀ a, ∀ rhs ∈ g.rulesOf a, rhs.isNormal = true ∧
        ∀ b, .nonterminal b ∈ rhs → b ∈ g.variableLabels := by
      intro a rhs hr
      have hp := h ⟨a, rhs⟩ (mem_productions.2 hr)
      split at hp
      · next hn => exact ⟨hn, by simpa using hp⟩
      · cases hp
    refine ⟨isNormal_iff.2 fun a rhs hr => (hrule a rhs hr).1, ?_⟩
    intro b hx
    obtain ⟨a, rhs, hr, hb⟩ := hx
    exact (hrule a rhs hr).2 b hb
  · obtain ⟨hn, hc⟩ := hx
    have hr := mem_productions.1 hp
    rw [if_pos (isNormal_iff.1 hn p.lhs p.rhs hr)]
    simpa using fun b hb => hc.mem hr hb

theorem hasLexicalRule_iff : g.hasLexicalRule t = true ↔ ∃ a, [.terminal t] ∈ g.rulesOf a := by
  rw [hasLexicalRule, List.any_eq_true]
  refine ⟨fun h => ?_, fun h => ?_⟩
  · obtain ⟨⟨a, rules⟩, he, hr⟩ := h
    rw [← (mem_entries_iff.1 he).2] at hr
    exact ⟨a, List.contains_iff_mem.1 hr⟩
  · obtain ⟨a, hr⟩ := h
    exact ⟨(a, g.ruleSet a), mem_entries_iff.2 ⟨mem_variableLabels_of_mem hr, rfl⟩,
      List.contains_iff_mem.2 hr⟩

end Grammar

theorem Derives.mem_or_uses (d : Derives g rhs w) (ht : t ∈ w) :
    .terminal t ∈ rhs ∨ g.Uses (.terminal t) := by
  induction d with
  | nil => cases ht
  | terminal _ ih =>
      rcases List.mem_cons.1 ht with rfl | ht
      · exact Or.inl List.mem_cons_self
      · exact (ih ht).imp_left (List.mem_cons_of_mem _)
  | nonterminal hr _ _ ihu ihv =>
      rcases List.mem_append.1 ht with ht | ht
      · exact Or.inr ((ihu ht).elim (.intro hr) id)
      · exact (ihv ht).imp_left (List.mem_cons_of_mem _)

theorem Grammar.Generates.hasLexicalRule (hn : g.isNormal = true) (hw : g.Generates w)
    (ht : t ∈ w) : g.hasLexicalRule t = true := by
  have huses : g.Uses (.terminal t) := (Derives.mem_or_uses hw ht).resolve_left (by simp)
  obtain ⟨a, rhs, hr, hs⟩ := huses
  rcases Rhs.isNormal_iff.1 (Grammar.isNormal_iff.1 hn a rhs hr) with ⟨x, rfl⟩ | ⟨b, c, rfl⟩
  · cases List.mem_singleton.1 hs
    exact Grammar.hasLexicalRule_iff.2 ⟨a, hr⟩
  · simp at hs

namespace Recognition

theorem accepted_tableOf_iff (hn : g.isNormal = true) (hc : g.Closed) (hw : w ≠ []) :
    (g.hasVariable g.start && holds (cellAt (tableOf g w) w.length 0) (g.indexOf g.start)) = true ↔
      g.Generates w := by
  have hcell := (exactRows_tableOf hn hc hw).exactCell (s := 0) (List.length_pos_iff.2 hw)
    (Nat.le_refl _) (by omega)
  rw [slice_all] at hcell
  rw [Bool.and_eq_true, Grammar.hasVariable_iff]
  constructor
  · exact fun ⟨hs, h⟩ => (hcell.holds_iff hs).1 h
  · intro h
    obtain ⟨rhs, hr, -⟩ := derives_variable_iff.1 h
    have hs := Grammar.mem_variableLabels_of_mem hr
    exact ⟨hs, (hcell.holds_iff hs).2 h⟩

end Recognition

theorem recognize_of_usable (hn : g.isNormal = true) (hc : g.Closed) (w : Word) :
    g.recognize w = .ok (if w.isEmpty then ⟨#[], g.acceptsEmpty⟩
      else if w.all g.hasLexicalRule then ⟨Recognition.tableOf g w, g.hasVariable g.start &&
        Recognition.holds (Recognition.cellAt (Recognition.tableOf g w) w.length 0)
          (g.indexOf g.start)⟩
      else ⟨#[], false⟩) := by
  rw [Grammar.recognize, Grammar.recognitionError?_eq_none_iff.2 ⟨hn, hc⟩]
  dsimp only
  split
  · rfl
  · split <;> rfl

theorem exists_recognize_eq_ok (hn : g.isNormal = true) (hc : g.Closed) (w : Word) :
    ∃ r, g.recognize w = .ok r ∧ (r.accepted = true ↔ g.Accepts w) := by
  refine ⟨_, recognize_of_usable hn hc w, ?_⟩
  split
  · next hw =>
      rw [List.isEmpty_iff] at hw
      subst hw
      have hne : ¬ g.Generates [] := not_derives_nil (nil_not_mem_of_isNormal hn) g.start
      simp [Grammar.Accepts, hne]
  · next hw =>
      have hw : w ≠ [] := mt List.isEmpty_iff.2 hw
      have haccepts : g.Accepts w ↔ g.Generates w := by simp [Grammar.Accepts, hw]
      rw [haccepts]
      split
      · exact Recognition.accepted_tableOf_iff hn hc hw
      · next hall =>
          refine ⟨fun h => (nomatch h), fun h => absurd ?_ hall⟩
          exact List.all_eq_true.2 fun t ht => h.hasLexicalRule hn ht

/-- For a word that is not empty the table is exact, unless some symbol of the word
has no rule; then there is no table and the word is not derived. -/
theorem recognize_exact (hn : g.isNormal = true) (hc : g.Closed) (hw : w ≠ []) :
    ∃ r, g.recognize w = .ok r ∧ (r.accepted = true ↔ g.Generates w) ∧
      ((∀ t ∈ w, ∃ a, [.terminal t] ∈ g.rulesOf a) →
        Recognition.ExactRows g w w.length r.table) ∧
      ((∃ t ∈ w, ∀ a, [.terminal t] ∉ g.rulesOf a) → ¬ g.Generates w ∧ r.accepted = false) := by
  have hall : w.all g.hasLexicalRule = true ↔ ∀ t ∈ w, ∃ a, [.terminal t] ∈ g.rulesOf a := by
    simp only [List.all_eq_true, Grammar.hasLexicalRule_iff]
  have hempty : ¬ w.isEmpty = true := mt List.isEmpty_iff.1 hw
  have hrec := recognize_of_usable hn hc w
  rw [if_neg hempty] at hrec
  by_cases h : w.all g.hasLexicalRule = true
  · rw [if_pos h] at hrec
    refine ⟨_, hrec, Recognition.accepted_tableOf_iff hn hc hw,
      fun _ => Recognition.exactRows_tableOf hn hc hw, ?_⟩
    intro hx
    obtain ⟨t, ht, hnone⟩ := hx
    obtain ⟨a, ha⟩ := hall.1 h t ht
    exact absurd ha (hnone a)
  · have hnot : ¬ g.Generates w := fun hg =>
      h (List.all_eq_true.2 fun t ht => hg.hasLexicalRule hn ht)
    rw [if_neg h] at hrec
    exact ⟨_, hrec, ⟨fun e => (nomatch e), fun hg => absurd hg hnot⟩,
      fun hsome => absurd (hall.2 hsome) h, fun _ => ⟨hnot, rfl⟩⟩

theorem recognize_exact_two_letters :
    ∃ g : Grammar, g = (((Grammar.blank "S" false).load "S" [["A", "B"]]).load "A" [["a"]]).load "B"
        [["b"]] ∧
      g.isNormal = true ∧ g.Closed ∧ ∃ r, g.recognize ["a", "b"] = .ok r ∧
        (r.accepted = true ↔ g.Generates ["a", "b"]) ∧
        ((∀ t ∈ ["a", "b"], ∃ a, [.terminal t] ∈ g.rulesOf a) →
          Recognition.ExactRows g ["a", "b"] 2 r.table) ∧
        ((∃ t ∈ ["a", "b"], ∀ a, [.terminal t] ∉ g.rulesOf a) →
          ¬ g.Generates ["a", "b"] ∧ r.accepted = false) := by
  obtain ⟨g, hg⟩ : ∃ g : Grammar, g = (((Grammar.blank "S" false).load "S" [["A", "B"]]).load "A"
      [["a"]]).load "B" [["b"]] := ⟨_, rfl⟩
  have husable : g.recognitionError? = none := by
    rw [hg]
    rfl
  obtain ⟨hn, hc⟩ := Grammar.recognitionError?_eq_none_iff.1 husable
  exact ⟨g, hg, hn, hc, recognize_exact hn hc (by decide)⟩

end ContextFree
