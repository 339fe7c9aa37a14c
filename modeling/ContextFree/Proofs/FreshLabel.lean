import ContextFree.Proofs.Rules

/-!
# A fresh label belongs to no symbol

The letters are tried one by one, so a letter that is drawn is free. The numbered
labels are not tried: the numbers in use are marked, and the first unmarked one
is taken. There is one, because there is room for one number more than can be
marked. It is in nobody's use, because a numbered label can be read back to its
number, and those before it are, because nothing else than a numbered label is
read back to a number.

So the labels that may be drawn form one sequence without an end, the letters and
then the numbered labels, and what is drawn is the first of them that is free.
-/

namespace ContextFree

theorem decimalValue_toDigits (n : Nat) : Text.decimalValue (Nat.toDigits 10 n) = n := by
  have hfold : Text.decimalValue (Nat.toDigits 10 n) = Nat.ofDigitChars 10 (Nat.toDigits 10 n) 0 := by
    rw [Nat.ofDigitChars_eq_foldl, Text.decimalValue]
    simp only [Nat.mul_comm]
  rw [hfold, Nat.ofDigitChars_ten_toDigits]

theorem labelNumber?_numberedLabel (n : Nat) : labelNumber? (numberedLabel n) = some n := by
  have hlist : (numberedLabel n).toList = 'X' :: Nat.toDigits 10 n := by
    simp [numberedLabel]
  unfold labelNumber?
  rw [hlist]
  simp [decimalValue_toDigits]

theorem eq_of_labelNumber? {a : String} {n : Nat} (h : labelNumber? a = some n) :
    numberedLabel n = a := by
  unfold labelNumber? at h
  split at h
  · dsimp only at h
    split at h
    · cases h
      assumption
    · cases h
  · cases h

section marks

variable {numbers : List Nat} {marks : Array Bool} {i : Nat}

theorem getElem?_foldl_mark :
    (numbers.foldl (fun marks n => marks.setIfInBounds n true) marks)[i]? =
      if i ∈ numbers ∧ i < marks.size then some true else marks[i]? := by
  induction numbers generalizing marks with
  | nil => simp
  | cons n numbers ih =>
      rw [List.foldl_cons, ih, Array.size_setIfInBounds, Array.getElem?_setIfInBounds]
      by_cases e : n = i
      · subst e
        by_cases hlt : n < marks.size
        · simp [hlt]
        · simp [hlt]
      · simp [e, Ne.symm e]

/-- A mark says whether the number is in use. -/
theorem tail_foldl_mark (numbers : List Nat) (size : Nat) :
    (numbers.foldl (fun marks n => marks.setIfInBounds n true)
      (Array.replicate (size + 1) false)).toList.tail =
        (List.range size).map fun i => decide (i + 1 ∈ numbers) := by
  refine List.ext_getElem? fun i => ?_
  rw [List.getElem?_tail, Array.getElem?_toList, getElem?_foldl_mark, Array.size_replicate,
    Array.getElem?_replicate, List.getElem?_map]
  by_cases hlt : i < size
  · by_cases hi : i + 1 ∈ numbers <;> simp [hlt, hi]
  · simp [hlt]

end marks

theorem exists_missing (numbers : List Nat) :
    ∃ n, n < numbers.length + 1 ∧ n + 1 ∉ numbers := by
  refine Classical.byContradiction fun hall => ?_
  have hsub : (List.range (numbers.length + 1)).map (· + 1) ⊆ numbers := by
    intro n hn
    obtain ⟨m, hm, rfl⟩ := List.mem_map.1 hn
    exact Classical.byContradiction fun h => hall ⟨m, List.mem_range.1 hm, h⟩
  have hnodup : ((List.range (numbers.length + 1)).map (· + 1)).Nodup :=
    List.nodup_range.map fun _ _ => Nat.succ.inj
  have := hnodup.length_le_of_subset hsub
  rw [List.length_map, List.length_range] at this
  omega

/-- The number that is taken is the first one, from one on, that is not in use. -/
theorem exists_firstNumbered (taken : List String) :
    ∃ n, firstNumbered taken = numberedLabel (n + 1) ∧ numberedLabel (n + 1) ∉ taken ∧
      ∀ m < n, numberedLabel (m + 1) ∈ taken := by
  unfold firstNumbered
  dsimp only
  rw [tail_foldl_mark]
  generalize hnumbers : taken.filterMap labelNumber? = numbers
  generalize hmarks : (List.range (numbers.length + 1)).map (fun i => decide (i + 1 ∈ numbers)) =
    marks
  have hmark : ∀ {i} (h : i < marks.length), marks[i] = decide (i + 1 ∈ numbers) := by
    intro i h
    simp [← hmarks]
  have hfree : false ∈ marks := by
    obtain ⟨n, hlt, hn⟩ := exists_missing numbers
    rw [← hmarks]
    exact List.mem_map.2 ⟨n, List.mem_range.2 hlt, by simp [hn]⟩
  have hlen : marks.idxOf false < marks.length := List.idxOf_lt_length_of_mem hfree
  refine ⟨marks.idxOf false, rfl, fun hmem => ?_, fun m hm => ?_⟩
  · have hfirst := (hmark hlen).symm.trans (List.getElem_idxOf hlen)
    refine of_decide_eq_false hfirst ?_
    rw [← hnumbers]
    exact List.mem_filterMap.2 ⟨_, hmem, labelNumber?_numberedLabel _⟩
  · have hbefore : (marks[m] == false) = false := List.not_of_lt_findIdx hm
    rw [hmark, ← hnumbers] at hbefore
    obtain ⟨a, ha, hnumber⟩ := List.mem_filterMap.1 (of_decide_eq_true (by simpa using hbefore))
    exact eq_of_labelNumber? hnumber ▸ ha

/-! ## The sequence of labels -/

/-- The sequence from which labels are drawn. The place 26 is that of `X1`. -/
def labelAt (n : Nat) : String := letterLabels[n]?.getD (numberedLabel (n - 25))

theorem length_letterLabels : letterLabels.length = 26 := rfl

theorem labelAt_of_lt {n : Nat} (h : n < letterLabels.length) : labelAt n = letterLabels[n] := by
  rw [labelAt, List.getElem?_eq_getElem h, Option.getD_some]

theorem labelAt_add (n : Nat) : labelAt (n + 26) = numberedLabel (n + 1) := by
  rw [labelAt, List.getElem?_eq_none (by simp [length_letterLabels]), Option.getD_none]
  rfl

namespace Grammar

variable {g : Grammar} {a : String} {n : Nat}

theorem hasSymbol_eq_true_iff :
    g.hasSymbol a = true ↔ a ∈ g.variableLabels ∨ a ∈ g.terminals := by
  rw [hasSymbol, Bool.or_eq_true, hasVariable_iff, List.contains_iff_mem]
  exact Iff.rfl

theorem hasSymbol_eq_false_iff :
    g.hasSymbol a = false ↔ a ∉ g.variableLabels ∧ a ∉ g.terminals := by
  rw [← Bool.not_eq_true, hasSymbol_eq_true_iff, not_or]

/-- The label at the place is free, and those before it are in use. -/
structure FirstFree (g : Grammar) (n : Nat) : Prop where
  free : g.hasSymbol (labelAt n) = false
  used : ∀ m < n, g.hasSymbol (labelAt m) = true

theorem FirstFree.unique {m : Nat} (hm : g.FirstFree m) (hn : g.FirstFree n) : m = n := by
  rcases Nat.lt_trichotomy m n with hlt | e | hlt
  · exact absurd (hn.used m hlt) (by simp [hm.free])
  · exact e
  · exact absurd (hm.used n hlt) (by simp [hn.free])

theorem exists_freshLabel?_eq (g : Grammar) : ∃ n, g.FirstFree n ∧
    g.freshLabel? = if g.bounded = true ∧ 26 ≤ n then none else some (labelAt n) := by
  unfold freshLabel?
  cases h : letterLabels.find? fun a => !g.hasSymbol a with
  | some a =>
      obtain ⟨hfree, n, hlt, rfl, hused⟩ := List.find?_eq_some_iff_getElem.1 h
      refine ⟨n, ⟨?_, fun m hm => ?_⟩, ?_⟩
      · rw [labelAt_of_lt hlt]
        simpa using hfree
      · rw [labelAt_of_lt (Nat.lt_trans hm hlt)]
        simpa using hused m hm
      · have hletter : ¬ 26 ≤ n := Nat.not_le_of_lt hlt
        simp [labelAt_of_lt hlt, hletter]
  | none =>
      have hletters : ∀ a ∈ letterLabels, g.hasSymbol a = true := by
        simpa using List.find?_eq_none.1 h
      obtain ⟨n, hn, hfree, hused⟩ :=
        exists_firstNumbered (g.variableLabels ++ g.terminals.toList)
      refine ⟨n + 26, ⟨?_, fun m hm => ?_⟩, ?_⟩
      · rw [labelAt_add, hasSymbol_eq_false_iff]
        simpa [OrderedSet.mem_toList] using hfree
      · by_cases hlt : m < 26
        · rw [labelAt_of_lt hlt]
          exact hletters _ (List.getElem_mem hlt)
        · obtain ⟨k, rfl⟩ := Nat.exists_eq_add_of_le' (Nat.le_of_not_lt hlt)
          rw [labelAt_add, hasSymbol_eq_true_iff]
          simpa [OrderedSet.mem_toList] using hused k (by omega)
      · simp [labelAt_add, hn]

/-- The first label that is free is drawn, unless there is a bound and it is no letter. -/
theorem FirstFree.freshLabel?_eq (hn : g.FirstFree n) :
    g.freshLabel? = if g.bounded = true ∧ 26 ≤ n then none else some (labelAt n) := by
  obtain ⟨m, hm, h⟩ := exists_freshLabel?_eq g
  rw [h, hm.unique hn]

theorem exists_firstFree (g : Grammar) : ∃ n, g.FirstFree n :=
  (exists_freshLabel?_eq g).imp fun _ h => h.1

theorem hasSymbol_of_freshLabel? (h : g.freshLabel? = some a) : g.hasSymbol a = false := by
  obtain ⟨n, hn⟩ := exists_firstFree g
  rw [hn.freshLabel?_eq] at h
  split at h
  · cases h
  · cases h
    exact hn.free

theorem bounded_of_freshLabel? (h : g.freshLabel? = none) : g.bounded = true := by
  obtain ⟨n, hn⟩ := exists_firstFree g
  rw [hn.freshLabel?_eq] at h
  split at h
  · next hb => exact hb.1
  · cases h

end Grammar

end ContextFree
