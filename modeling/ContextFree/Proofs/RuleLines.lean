import ContextFree.Proofs.LineCuts

/-!
# How a line with a rule is read

What a line says does not depend on the blanks in it, as long as it is cut where it was
put together: the blanks before the right side disappear when the alternatives are split,
and those before the label when the line is cut. A line that is cut at a later arrow is
refused, because a left side with an arrow in it is no label.
-/

namespace ContextFree

variable {cs left right blanks rest : List Char}

/-! ## What stands on a line -/

namespace Text

variable {l : List Char} {c : Char}

theorem isLineBreak_of_not_blank (hc : isBlank c = false) : isLineBreak c = false := by
  rw [Bool.eq_false_iff]
  intro h
  have hblank := isBlank_of_isLineBreak h
  rw [hc] at hblank
  cases hblank

theorem lines_cons (hc : isLineBreak c = false) :
    lines (c :: cs) = match lines cs with
      | [] => [[c]]
      | l :: ls => (c :: l) :: ls := by
  have hr : c ≠ '\r' := by
    rintro rfl
    cases hc
  rw [lines.eq_def (c :: cs)]
  split
  · next h => cases h
  · next h => exact absurd (List.cons.inj h).1 hr
  · next h =>
      obtain ⟨rfl, rfl⟩ := List.cons.inj h
      exact if_neg (Bool.eq_false_iff.1 hc)

theorem lines_of_no_break (hne : l ≠ []) (hl : ∀ c ∈ l, isLineBreak c = false) : lines l = [l] := by
  induction l with
  | nil => exact absurd rfl hne
  | cons c l ih =>
      obtain ⟨hc, hl⟩ := List.forall_mem_cons.1 hl
      rw [lines_cons hc]
      cases l with
      | nil => rfl
      | cons d l => rw [ih (List.cons_ne_nil d l) hl]

theorem words_append_of_blank (hblanks : ∀ c ∈ blanks, isBlank c = true) :
    words (blanks ++ cs) = words cs := by
  induction blanks with
  | nil => rfl
  | cons c blanks ih =>
      obtain ⟨hc, hblanks⟩ := List.forall_mem_cons.1 hblanks
      rw [List.cons_append, words, pieces, if_pos hc, List.filter_cons_of_neg (by simp)]
      exact ih hblanks

end Text

namespace Spelling

variable {spelling : Spelling}

theorem split_append_of_blank (hblanks : ∀ c ∈ blanks, Text.isBlank c = true) :
    spelling.split (blanks ++ cs) = spelling.split cs := by
  cases spelling with
  | compact =>
      have hnone : blanks.filter (fun c => !Text.isBlank c) = [] :=
        List.filter_eq_nil_iff.2 fun c hc => by simp [hblanks c hc]
      rw [split, List.filter_append, hnone, List.nil_append]
      rfl
  | spaced => rw [split, Text.words_append_of_blank hblanks]; rfl

/-- Blanks in front of a right side do not count. -/
theorem alternatives_append_of_blank (hblanks : ∀ c ∈ blanks, Text.isBlank c = true) :
    spelling.alternatives (String.ofList (blanks ++ right)) =
      spelling.alternatives (String.ofList right) := by
  have hbar : ∀ c ∈ blanks, (c == '|') = false := by
    intro c hc
    rw [beq_eq_false_iff_ne]
    rintro rfl
    cases hblanks _ hc
  obtain ⟨piece, pieces, hpieces⟩ :
      ∃ piece pieces, Text.pieces (· == '|') right = piece :: pieces :=
    List.exists_cons_of_length_pos (by rw [Text.length_pieces]; exact Nat.succ_pos _)
  rw [alternatives, alternatives, String.toList_ofList, String.toList_ofList,
    Text.pieces_append hbar hpieces, hpieces, List.map_cons, List.map_cons,
    split_append_of_blank hblanks]

end Spelling

/-! ## Reading a line -/

variable {spelling : Spelling} {label : String} {line : List Char} {before between : List Char}

theorem readLine_eq_ok (hlabel : readLeftSide spelling (.text label) = .ok label)
    (hsides : ruleSides? line = some (label.toList, right)) (number : Nat) :
    readLine spelling number line = .ok (label, spelling.alternatives (String.ofList right)) := by
  unfold readLine
  rw [hsides]
  dsimp only
  rw [String.ofList_toList, hlabel]
  rfl

theorem readLine_eq_error {e : ReadError}
    (hleft : readLeftSide spelling (.text (String.ofList left)) = .error e)
    (hsides : ruleSides? line = some (left, right)) (number : Nat) :
    readLine spelling number line = .error e := by
  unfold readLine
  rw [hsides]
  dsimp only
  rw [hleft]
  rfl

/-- A left side that took an arrow in is refused. -/
theorem readLeftSide_of_arrow (hleft : ∀ c ∈ left, Text.isBlank c = false)
    (hsign : ∃ c ∈ left, c = '-' ∨ c = '→') :
    readLeftSide spelling (.text (String.ofList left)) =
      .error (.malformedVariable (String.ofList left)) := by
  obtain ⟨c, hc, hsign⟩ := hsign
  have hne : (String.ofList left).isEmpty = false := by
    rw [String.isEmpty_eq_false_iff, ne_eq, String.ofList_eq_empty_iff]
    exact List.ne_nil_of_mem hc
  have htrim : Text.trim (String.ofList left).toList = left := by
    rw [String.toList_ofList, Text.trim_of_not_blank hleft]
  have hread : readLeftSide spelling (.text (String.ofList left)) =
      if spelling.isLeftSide left then .ok (String.ofList left)
      else .error (.malformedVariable (String.ofList left)) := by
    rw [readLeftSide, htrim, hne]
    rfl
  rw [hread]
  refine if_neg fun h => ?_
  rw [if_pos h] at hread
  have hno := (startsLine_of_readLeftSide hread).no_arrow
  rw [String.toList_ofList] at hno
  exact hsign.elim (hno c hc).1 (hno c hc).2

theorem isPassedOver_eq_false (hlabel : StartsLine label.toList)
    (hbefore : ∀ c ∈ before, Text.isBlank c = true) :
    isPassedOver (before ++ (label.toList ++ rest)) = false := by
  unfold isPassedOver
  rw [hlabel.trimLeft_append hbefore]
  generalize label.toList = label at hlabel ⊢
  cases label with
  | nil => exact absurd rfl hlabel.ne_nil
  | cons c label => exact beq_eq_false_iff_ne.2 (hlabel.no_hash c List.mem_cons_self)

/-- The line is one line, it is not passed over, and what is read is the rule. -/
structure HoldsRule (spelling : Spelling) (line : List Char) (rule : String × List (List String)) :
    Prop where
  ne_nil : line ≠ []
  no_break : ∀ c ∈ line, Text.isLineBreak c = false
  not_passed : isPassedOver line = false
  reads : ∀ number, readLine spelling number line = .ok rule

theorem readLines_of_line {text : String} (hne : text.toList ≠ [])
    (hbreak : ∀ c ∈ text.toList, Text.isLineBreak c = false)
    (hrule : isPassedOver text.toList = false) :
    readLines spelling text = (readLine spelling 1 text.toList).map fun rule => [rule] := by
  unfold readLines
  dsimp only
  rw [Text.lines_of_no_break hne hbreak, List.zipIdx_singleton,
    List.filter_cons_of_pos (by simp [hrule]), List.filter_nil, List.mapM_cons, List.mapM_nil]
  cases readLine spelling 1 text.toList <;> rfl

theorem HoldsRule.readLines_eq {text : String} {rule : String × List (List String)}
    (h : HoldsRule spelling text.toList rule) : readLines spelling text = .ok [rule] := by
  rw [readLines_of_line h.ne_nil h.no_break h.not_passed, h.reads]
  rfl

/-! ## The spacing of a rule -/

/-- Blanks that stay on the line. -/
def IsSpacing (text : String) : Prop :=
  ∀ c ∈ text.toList, Text.isBlank c = true ∧ Text.isLineBreak c = false

theorem isSpacing_of_all {text : String}
    (h : text.toList.all (fun c => Text.isBlank c && !Text.isLineBreak c) = true) :
    IsSpacing text := by
  intro c hc
  simpa using List.all_eq_true.1 h c hc

theorem no_break_of_all {text : String} (h : text.toList.all (!Text.isLineBreak ·) = true) :
    ∀ c ∈ text.toList, Text.isLineBreak c = false := by
  intro c hc
  simpa using List.all_eq_true.1 h c hc

/-- The text can be cut as a line with a rule is, if nothing is asked of the left side. -/
def HasCut (cs : List Char) : Prop := ∃ left right, IsCut cs left right

section

variable {label before between arrow after right : String}

theorem toList_line :
    (before ++ label ++ between ++ arrow ++ after ++ right).toList = before.toList ++
      (label.toList ++ (between.toList ++ (arrow.toList ++ (after ++ right).toList))) := by
  simp only [String.toList_append, List.append_assoc]

theorem no_break_line (hlabel : StartsLine label.toList) (harrow : arrow.toList ∈ arrows)
    (hbefore : IsSpacing before) (hbetween : IsSpacing between) (hafter : IsSpacing after)
    (hright : ∀ c ∈ right.toList, Text.isLineBreak c = false) :
    ∀ c ∈ (before ++ label ++ between ++ arrow ++ after ++ right).toList,
      Text.isLineBreak c = false := by
  have hlabel : ∀ c ∈ label.toList, Text.isLineBreak c = false :=
    fun c hc => Text.isLineBreak_of_not_blank (hlabel.not_blank c hc)
  have harrow : ∀ c ∈ arrow.toList, Text.isLineBreak c = false :=
    fun c hc => Text.isLineBreak_of_not_blank (not_blank_of_mem_arrows harrow c hc)
  simp only [String.toList_append, List.forall_mem_append]
  exact ⟨⟨⟨⟨⟨fun c hc => (hbefore c hc).2, hlabel⟩, fun c hc => (hbetween c hc).2⟩, harrow⟩,
    fun c hc => (hafter c hc).2⟩, hright⟩

theorem holdsRule_line (hlabel : readLeftSide spelling (.text label) = .ok label)
    (harrow : arrow.toList ∈ arrows) (hbefore : IsSpacing before) (hbetween : IsSpacing between)
    (hafter : IsSpacing after) (hright : ∀ c ∈ right.toList, Text.isLineBreak c = false)
    (hno : between ≠ "" ∨ ¬ HasCut (after ++ right).toList) :
    HoldsRule spelling (before ++ label ++ between ++ arrow ++ after ++ right).toList
      (label, spelling.alternatives right) := by
  have hstarts := startsLine_of_readLeftSide hlabel
  have hblank : ∀ c ∈ before.toList, Text.isBlank c = true := fun c hc => (hbefore c hc).1
  have hsides := ruleSides?_of_no_cut hstarts harrow hblank (fun c hc => (hbetween c hc).1)
    (hno.imp_left fun h => mt String.toList_eq_nil_iff.1 h)
  refine ⟨?_, no_break_line hstarts harrow hbefore hbetween hafter hright, ?_, fun number => ?_⟩
  · rw [toList_line]
    exact List.append_ne_nil_of_right_ne_nil _ (List.append_ne_nil_of_left_ne_nil hstarts.ne_nil _)
  · rw [toList_line]
    exact isPassedOver_eq_false hstarts hblank
  · rw [toList_line, readLine_eq_ok hlabel hsides, String.toList_append,
      Spelling.alternatives_append_of_blank fun c hc => (hafter c hc).1, String.ofList_toList]

theorem readLines_line_of_cut (hlabel : readLeftSide spelling (.text label) = .ok label)
    (harrow : arrow.toList ∈ arrows) (hbefore : IsSpacing before) (hafter : IsSpacing after)
    (hright : ∀ c ∈ right.toList, Text.isLineBreak c = false)
    (hcut : HasCut (after ++ right).toList) :
    ∃ taken, readLines spelling (before ++ label ++ "" ++ arrow ++ after ++ right) =
      .error (.malformedVariable (label ++ arrow ++ taken)) := by
  have hstarts := startsLine_of_readLeftSide hlabel
  have hblank : ∀ c ∈ before.toList, Text.isBlank c = true := fun c hc => (hbefore c hc).1
  have hempty : IsSpacing "" := isSpacing_of_all rfl
  obtain ⟨_, _, hcut⟩ := hcut
  obtain ⟨taken, right', hsides, htaken⟩ := exists_ruleSides?_of_cut hstarts harrow hblank hcut
  have hleft : ∀ c ∈ label.toList ++ (arrow.toList ++ taken), Text.isBlank c = false :=
    List.forall_mem_append.2 ⟨hstarts.not_blank,
      List.forall_mem_append.2 ⟨not_blank_of_mem_arrows harrow, htaken⟩⟩
  have hsign : ∃ c ∈ label.toList ++ (arrow.toList ++ taken), c = '-' ∨ c = '→' := by
    obtain ⟨c, hc, hsign⟩ := exists_sign_of_mem_arrows harrow
    exact ⟨c, List.mem_append_right _ (List.mem_append_left _ hc), hsign⟩
  have hline : (before ++ label ++ "" ++ arrow ++ after ++ right).toList =
      before.toList ++ (label.toList ++ (arrow.toList ++ (after ++ right).toList)) := by
    rw [toList_line, String.toList_empty, List.nil_append]
  refine ⟨String.ofList taken, ?_⟩
  rw [readLines_of_line, hline, readLine_eq_error (readLeftSide_of_arrow hleft hsign) hsides]
  · simp only [String.ofList_append, String.ofList_toList, String.append_assoc]
    rfl
  · rw [hline]
    exact List.append_ne_nil_of_right_ne_nil _ (List.append_ne_nil_of_left_ne_nil hstarts.ne_nil _)
  · exact no_break_line hstarts harrow hbefore hempty hafter hright
  · rw [hline]
    exact isPassedOver_eq_false hstarts hblank

namespace Grammar

/-- A line is read in the same way whatever blanks stand in it, but for one thing. If no
blank stands before the arrow and the text after it has a cut, the line is refused, and what
the refusal shows is the label with the arrow behind it. With blanks around the arrow the
line gives the label the alternatives of everything behind the arrow. -/
theorem ofText_rule (bounded : Bool) (hlabel : readLeftSide spelling (.text label) = .ok label)
    (harrow : arrow = "->" ∨ arrow = "→") (hbefore : IsSpacing before)
    (hbetween : IsSpacing between) (hafter : IsSpacing after)
    (hright : ∀ c ∈ right.toList, Text.isLineBreak c = false) :
    (between ≠ "" ∨ ¬ HasCut (after ++ right).toList → ∀ start,
      ofText spelling bounded start (before ++ label ++ between ++ arrow ++ after ++ right) =
        ofText spelling bounded start (label ++ " " ++ arrow ++ " " ++ right)) ∧
    (between = "" ∧ HasCut (after ++ right).toList → ∃ taken, ∀ start,
      ofText spelling bounded start (before ++ label ++ between ++ arrow ++ after ++ right) =
        .error (.malformedVariable (label ++ arrow ++ taken))) ∧
    ofText spelling bounded none (label ++ " " ++ arrow ++ " " ++ right) =
      .ok ((blank label bounded).load label (spelling.alternatives right)) := by
  have harrow : arrow.toList ∈ arrows := by
    rcases harrow with rfl | rfl <;> decide
  have hempty : IsSpacing "" := isSpacing_of_all rfl
  have hspace : IsSpacing " " := isSpacing_of_all rfl
  have hspaced : readLines spelling (label ++ " " ++ arrow ++ " " ++ right) =
      .ok [(label, spelling.alternatives right)] := by
    have hholds := holdsRule_line hlabel harrow hempty hspace hspace hright (Or.inl (by decide))
    rw [String.empty_append] at hholds
    exact hholds.readLines_eq
  refine ⟨fun hno start => ?_, ?_, ?_⟩
  · unfold ofText
    rw [(holdsRule_line hlabel harrow hbefore hbetween hafter hright hno).readLines_eq, hspaced]
  · rintro ⟨rfl, hcut⟩
    obtain ⟨taken, h⟩ := readLines_line_of_cut hlabel harrow hbefore hafter hright hcut
    refine ⟨taken, fun start => ?_⟩
    unfold ofText
    rw [h]
    rfl
  · unfold ofText
    rw [hspaced]
    have hmem : ([(label, spelling.alternatives right)].map Prod.fst).contains label = true := by
      simp
    exact if_pos hmem

/-- Blanks around the arrow change nothing, also if the right side has arrows. -/
theorem ofText_rule_spaced_arrows :
    (∀ start, ofText .compact false start " S\t->a->b" = ofText .compact false start "S -> a->b") ∧
      ∃ taken, ∀ start,
        ofText .compact false start "S→ → b" = .error (.malformedVariable ("S→" ++ taken)) := by
  have hempty : IsSpacing "" := isSpacing_of_all rfl
  have hspace : IsSpacing " " := isSpacing_of_all rfl
  have htab : IsSpacing "\t" := isSpacing_of_all rfl
  have hlabel : readLeftSide .compact (.text "S") = .ok "S" := rfl
  have hcut : HasCut " → b".toList :=
    ⟨[], [' ', 'b'], [' '], ['→'], rfl, nofun, List.forall_mem_singleton.2 rfl, by decide⟩
  obtain ⟨hspaced, -, -⟩ := ofText_rule false hlabel (Or.inl rfl) hspace htab hempty
    (show ∀ c ∈ "a->b".toList, _ from no_break_of_all rfl)
  obtain ⟨-, hcrowded, -⟩ := ofText_rule false hlabel (Or.inr rfl) hempty hempty hempty
    (show ∀ c ∈ " → b".toList, _ from no_break_of_all rfl)
  exact ⟨hspaced (Or.inl (by decide)), hcrowded ⟨rfl, hcut⟩⟩

/-- Without a blank before it, the arrow is taken for a part of the left side. -/
theorem ofText_rule_crowded_arrows :
    readLeftSide .compact (.text "S") = .ok "S" ∧
      ofText .compact false none "S->a->b" = .error (.malformedVariable "S->a") ∧
      ∃ g, ofText .compact false none "S -> a->b" = .ok g ∧ g.rulesOf "S" =
        [[.terminal "a", .terminal "-", .terminal ">", .terminal "b"]] :=
  ⟨rfl, rfl, _, rfl, rfl⟩

end Grammar

end

end ContextFree
