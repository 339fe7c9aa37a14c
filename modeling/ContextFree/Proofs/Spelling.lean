import ContextFree.Reading.Spelling
import Mathlib.Data.List.DropRight

/-!
# Which words can be read back

A word is written by joining its labels and read by cutting the text up again. Cutting a
text never gives a label that is empty or holds a blank, nor one of several characters in
the compact spelling. The other labels are plain, and a word of plain labels is read back
as it was written. So these words, and no others, survive being written and read.

A grammar may have labels that are not plain: rules whose alternatives are given as lists
of labels are not cut up when they are read.
-/

namespace ContextFree

namespace Text

variable {cut : Char → Bool} {p q l cs : List Char} {qs : List (List Char)} {c : Char}

/-! ## Trimmed texts -/

theorem trimLeft_of_not_blank (hc : isBlank c = false) : trimLeft (c :: cs) = c :: cs := by
  rw [trimLeft, List.dropWhile_cons_of_neg (by simp [hc])]

theorem trimRight_of_not_blank (hc : isBlank c = false) :
    trimRight (c :: cs) = c :: trimRight cs := by
  rw [trimRight, List.reverse_cons, List.dropWhile_append, trimRight]
  split
  · next h => rw [List.isEmpty_iff.1 h, List.dropWhile_cons_of_neg (by simp [hc])]; rfl
  · rw [List.reverse_append, List.reverse_singleton, List.singleton_append]

theorem trim_of_not_blank (hl : ∀ c ∈ l, isBlank c = false) : trim l = l := by
  have hright : ∀ {l : List Char}, (∀ c ∈ l, isBlank c = false) → trimRight l = l := by
    intro l hl
    induction l with
    | nil => rfl
    | cons c l ih =>
        obtain ⟨hc, hl⟩ := List.forall_mem_cons.1 hl
        rw [trimRight_of_not_blank hc, ih hl]
  cases l with
  | nil => rfl
  | cons c l => rw [trim, trimLeft_of_not_blank (hl c List.mem_cons_self), hright hl]

theorem trim_trim (cs : List Char) : trim (trim cs) = trim cs := by
  have hright : ∀ cs, trimRight (trimRight cs) = trimRight cs :=
    fun cs => List.rdropWhile_idempotent isBlank cs
  have htrim : ∀ l, trimLeft l = l → trim (trimRight l) = trimRight l := by
    intro l hl
    cases l with
    | nil => rfl
    | cons c l =>
        have hc : isBlank c = false := by
          simpa using List.dropWhile_eq_self_iff.1 hl (Nat.succ_pos _)
        rw [trim, trimRight_of_not_blank hc, trimLeft_of_not_blank hc, trimRight_of_not_blank hc,
          hright]
  exact htrim (trimLeft cs) (List.dropWhile_idempotent isBlank cs)

/-! ## Texts that are cut -/

theorem not_cut_of_mem_pieces (hp : p ∈ pieces cut cs) : ∀ c ∈ p, cut c = false := by
  induction cs generalizing p with
  | nil =>
      rw [List.mem_singleton.1 hp]
      exact fun c hc => nomatch hc
  | cons d cs ih =>
      unfold pieces at hp
      split at hp
      · rcases List.mem_cons.1 hp with rfl | hp
        · exact fun c hc => nomatch hc
        · exact ih hp
      · next hd =>
          have hd : cut d = false := Bool.eq_false_iff.2 hd
          split at hp
          · rw [List.mem_singleton.1 hp]
            exact fun c hc => (List.mem_singleton.1 hc) ▸ hd
          · next r rs hr =>
              rw [hr] at ih
              rcases List.mem_cons.1 hp with rfl | hp
              · intro c hc
                rcases List.mem_cons.1 hc with rfl | hc
                · exact hd
                · exact ih List.mem_cons_self c hc
              · exact ih (List.mem_cons_of_mem _ hp)

/-- Characters that are not cut at join the first piece. -/
theorem pieces_append (hp : ∀ c ∈ p, cut c = false) (hcs : pieces cut cs = q :: qs) :
    pieces cut (p ++ cs) = (p ++ q) :: qs := by
  induction p with
  | nil => exact hcs
  | cons d p ih =>
      rw [List.forall_mem_cons] at hp
      rw [List.cons_append, pieces, if_neg (Bool.eq_false_iff.1 hp.1), ih hp.2]
      rfl

theorem pieces_append_cut (hp : ∀ c ∈ p, cut c = false) (hc : cut c = true) :
    pieces cut (p ++ c :: cs) = p :: pieces cut cs := by
  have hcs : pieces cut (c :: cs) = [] :: pieces cut cs := by rw [pieces, if_pos hc]
  rw [pieces_append hp hcs, List.append_nil]

theorem pieces_eq_singleton (hp : ∀ c ∈ p, cut c = false) : pieces cut p = [p] := by
  have hpieces : pieces cut (p ++ []) = [p ++ []] := pieces_append hp rfl
  rwa [List.append_nil] at hpieces

theorem mem_words (hp : p ∈ words cs) : p ≠ [] ∧ ∀ c ∈ p, isBlank c = false := by
  obtain ⟨hp, hne⟩ := List.mem_filter.1 hp
  exact ⟨by simpa using hne, not_cut_of_mem_pieces hp⟩

theorem words_append_blank (hne : p ≠ []) (hp : ∀ c ∈ p, isBlank c = false)
    (hc : isBlank c = true) : words (p ++ c :: cs) = p :: words cs := by
  rw [words, pieces_append_cut hp hc, List.filter_cons_of_pos (by simpa using hne), words]

theorem words_eq_singleton (hne : p ≠ []) (hp : ∀ c ∈ p, isBlank c = false) :
    words p = [p] := by
  rw [words, pieces_eq_singleton hp, List.filter_cons_of_pos (by simpa using hne),
    List.filter_nil]

end Text

namespace Spelling

variable {spelling : Spelling} {a b : String} {w : Word} {cs : List Char}

/-- Whether a label is read back as it is written: it has no blank, and one character or
at least one, by the spelling. -/
def isPlain (spelling : Spelling) (label : String) : Bool :=
  label.toList.all (fun c => !Text.isBlank c) &&
    match spelling with
    | .compact => label.length == 1
    | .spaced => !label.isEmpty

theorem isPlain_compact_iff :
    compact.isPlain a = true ↔ ∃ c, a = String.singleton c ∧ Text.isBlank c = false := by
  simp only [isPlain, Bool.and_eq_true, List.all_eq_true, Bool.not_eq_true', beq_iff_eq]
  constructor
  · intro h
    obtain ⟨c, hc⟩ := List.length_eq_one_iff.1 (String.length_toList.trans h.2)
    refine ⟨c, ?_, h.1 c (hc ▸ List.mem_singleton_self c)⟩
    rw [← String.toList_inj, hc, String.toList_singleton]
  · intro h
    obtain ⟨c, rfl, hc⟩ := h
    refine ⟨fun d hd => ?_, String.length_singleton⟩
    rw [String.toList_singleton, List.mem_singleton] at hd
    exact hd ▸ hc

theorem isPlain_spaced_iff :
    spaced.isPlain a = true ↔ a.toList ≠ [] ∧ ∀ c ∈ a.toList, Text.isBlank c = false := by
  simp [isPlain, and_comm]

theorem isPlain_of_mem_split (h : a ∈ spelling.split cs) : spelling.isPlain a = true := by
  cases spelling with
  | compact =>
      obtain ⟨c, hc, rfl⟩ := List.mem_map.1 h
      exact isPlain_compact_iff.2 ⟨c, rfl, by simpa using (List.mem_filter.1 hc).2⟩
  | spaced =>
      obtain ⟨p, hp, rfl⟩ := List.mem_map.1 h
      rw [isPlain_spaced_iff, String.toList_ofList]
      exact Text.mem_words hp

theorem ne_empty_of_isPlain (h : spelling.isPlain a = true) : a ≠ "" := by
  intro e
  subst e
  cases spelling <;> cases h

theorem split_singleton (h : spelling.isPlain a = true) : spelling.split a.toList = [a] := by
  cases spelling with
  | compact =>
      obtain ⟨c, rfl, hc⟩ := isPlain_compact_iff.1 h
      simp [split, hc]
  | spaced =>
      obtain ⟨hne, hblank⟩ := isPlain_spaced_iff.1 h
      rw [split, Text.words_eq_singleton hne hblank, List.map_singleton, String.ofList_toList]

/-- A plain label is cut off before the separator. -/
theorem split_append_separator (h : spelling.isPlain a = true) :
    spelling.split (a.toList ++ spelling.separator.toList ++ cs) = a :: spelling.split cs := by
  cases spelling with
  | compact =>
      obtain ⟨c, rfl, hc⟩ := isPlain_compact_iff.1 h
      simp [split, separator, hc]
  | spaced =>
      obtain ⟨hne, hblank⟩ := isPlain_spaced_iff.1 h
      have hcut : spaced.split (a.toList ++ ' ' :: cs) = a :: spaced.split cs := by
        rw [split, Text.words_append_blank hne hblank rfl, List.map_cons, String.ofList_toList]
        rfl
      rw [List.append_assoc]
      exact hcut

theorem split_join (h : ∀ a ∈ w, spelling.isPlain a = true) :
    spelling.split (spelling.join w).toList = w := by
  induction w with
  | nil => cases spelling <;> rfl
  | cons a w ih =>
      rw [List.forall_mem_cons] at h
      cases w with
      | nil =>
          rw [join, String.intercalate_singleton]
          exact split_singleton h.1
      | cons b w =>
          rw [join, String.intercalate_cons_cons, String.toList_append, String.toList_append,
            split_append_separator h.1]
          exact congrArg (a :: ·) (ih h.2)

/-- Reading gives back what was written exactly if all labels are plain. -/
theorem split_join_eq_iff :
    spelling.split (spelling.join w).toList = w ↔ ∀ a ∈ w, spelling.isPlain a = true :=
  ⟨fun h _ ha => isPlain_of_mem_split (h ▸ ha), split_join⟩

end Spelling

end ContextFree
