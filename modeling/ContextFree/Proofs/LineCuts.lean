import ContextFree.Proofs.Labels
import Mathlib.Data.List.TakeWhile

/-!
# Where a line with a rule is cut

A line is cut into a left side, an arrow and a right side. Blanks may stand around the
arrow and need not, so a line can have several cuts, one for each arrow that is reached
from its beginning without passing a blank, or passing blanks right before the arrow only.
The reader takes the cut with the longest left side.

For a label, an arrow and any text after it this is the cut that was meant, as long as a
blank stands before the arrow. If none does, the text after the arrow must have no cut of
its own; otherwise its first part is taken into the left side, which is no label then.
-/

namespace ContextFree

variable {cs left right blanks arrow rest : List Char} {c : Char}

/-! ## Cuts of a line -/

/-- The arrows that may stand between the sides of a rule. -/
def arrows : List (List Char) := [['-', '>'], ['→']]

/-- The text is a left side without blanks, some blanks, an arrow and a right side. -/
def IsCut (cs left right : List Char) : Prop :=
  ∃ blanks arrow, cs = left ++ (blanks ++ (arrow ++ right)) ∧ (∀ c ∈ left, Text.isBlank c = false) ∧
    (∀ c ∈ blanks, Text.isBlank c = true) ∧ arrow ∈ arrows

theorem afterArrow?_eq_some_iff :
    afterArrow? cs = some right ↔ ∃ arrow ∈ arrows, cs = arrow ++ right := by
  constructor
  · intro h
    unfold afterArrow? at h
    split at h
    · exact ⟨_, List.mem_cons_self, by rw [← Option.some.inj h]; rfl⟩
    · exact ⟨_, List.mem_cons_of_mem _ List.mem_cons_self, by rw [← Option.some.inj h]; rfl⟩
    · cases h
  · rintro ⟨arrow, harrow, rfl⟩
    rcases List.mem_cons.1 harrow with rfl | harrow
    · rfl
    · rw [List.mem_singleton.1 harrow]
      rfl

theorem forall_mem_arrows {P : List Char → Prop} (hsigns : P ['-', '>']) (hsign : P ['→']) :
    ∀ arrow ∈ arrows, P arrow :=
  List.forall_mem_cons.2 ⟨hsigns, List.forall_mem_singleton.2 hsign⟩

theorem not_blank_of_mem_arrows (harrow : arrow ∈ arrows) :
    ∀ c ∈ arrow, Text.isBlank c = false :=
  forall_mem_arrows (P := fun arrow => ∀ c ∈ arrow, Text.isBlank c = false)
    (List.forall_mem_cons.2 ⟨rfl, List.forall_mem_singleton.2 rfl⟩)
    (List.forall_mem_singleton.2 rfl) arrow harrow

theorem ne_nil_of_mem_arrows (harrow : arrow ∈ arrows) : arrow ≠ [] :=
  forall_mem_arrows (P := (· ≠ [])) (List.cons_ne_nil _ _) (List.cons_ne_nil _ _) arrow harrow

theorem exists_sign_of_mem_arrows (harrow : arrow ∈ arrows) : ∃ c ∈ arrow, c = '-' ∨ c = '→' :=
  forall_mem_arrows (P := fun arrow => ∃ c ∈ arrow, c = '-' ∨ c = '→')
    ⟨'-', List.mem_cons_self, Or.inl rfl⟩ ⟨'→', List.mem_cons_self, Or.inr rfl⟩ arrow harrow

theorem trimLeft_append_of_blank (hblanks : ∀ c ∈ blanks, Text.isBlank c = true) :
    Text.trimLeft (blanks ++ cs) = Text.trimLeft cs :=
  List.dropWhile_append_of_pos hblanks

theorem trimLeft_arrow (harrow : arrow ∈ arrows) : Text.trimLeft (arrow ++ cs) = arrow ++ cs := by
  have hblank := not_blank_of_mem_arrows harrow
  cases arrow with
  | nil => exact absurd rfl (ne_nil_of_mem_arrows harrow)
  | cons c arrow => exact Text.trimLeft_of_not_blank (hblank c List.mem_cons_self)

theorem afterArrow?_trimLeft (hblanks : ∀ c ∈ blanks, Text.isBlank c = true)
    (harrow : arrow ∈ arrows) :
    afterArrow? (Text.trimLeft (blanks ++ (arrow ++ right))) = some right := by
  rw [trimLeft_append_of_blank hblanks, trimLeft_arrow harrow]
  exact afterArrow?_eq_some_iff.2 ⟨arrow, harrow, rfl⟩

/-- The left side decides the cut. -/
theorem IsCut.unique {left' right' : List Char} (h : IsCut cs left right)
    (h' : IsCut cs left' right') (hlen : left.length = left'.length) :
    left = left' ∧ right = right' := by
  obtain ⟨blanks, arrow, rfl, -, hblanks, harrow⟩ := h
  obtain ⟨blanks', arrow', heq, -, hblanks', harrow'⟩ := h'
  obtain ⟨hleft, hrest⟩ := List.append_inj heq hlen
  have hright : afterArrow? (Text.trimLeft (blanks ++ (arrow ++ right))) = some right :=
    afterArrow?_trimLeft hblanks harrow
  rw [hrest, afterArrow?_trimLeft hblanks' harrow'] at hright
  exact ⟨hleft, (Option.some.inj hright).symm⟩

/-- What stands before the cut at the beginning of the line may be left out. -/
theorem IsCut.of_append (pre : List Char) (h : IsCut (pre ++ cs) (pre ++ left) right) :
    IsCut cs left right := by
  obtain ⟨blanks, arrow, heq, hleft, hblanks, harrow⟩ := h
  rw [List.append_assoc, List.append_cancel_left_eq] at heq
  exact ⟨blanks, arrow, heq, fun c hc => hleft c (List.mem_append_right _ hc), hblanks, harrow⟩

theorem IsCut.exists_append {pre : List Char} (h : IsCut (pre ++ cs) left right)
    (hlen : pre.length ≤ left.length) : ∃ x, left = pre ++ x := by
  obtain ⟨blanks, arrow, heq, -⟩ := h
  obtain ⟨x, hx⟩ : pre <+: left :=
    List.prefix_of_prefix_length_le (List.prefix_append pre cs) (heq ▸ List.prefix_append left _) hlen
  exact ⟨x, hx.symm⟩

theorem IsCut.not_blank_of_cons (h : IsCut (c :: cs) left right) (hne : left ≠ []) :
    Text.isBlank c = false := by
  obtain ⟨blanks, arrow, heq, hleft, -⟩ := h
  obtain ⟨d, left, rfl⟩ := List.exists_cons_of_ne_nil hne
  obtain rfl : c = d := (List.cons.inj heq).1
  exact hleft c List.mem_cons_self

/-- If a line starts with an arrow, a left side that is not empty has all of it. -/
theorem IsCut.exists_of_arrow (harrow : arrow ∈ arrows) (hne : left ≠ [])
    (h : IsCut (arrow ++ rest) left right) : ∃ p, left = arrow ++ p ∧ IsCut rest p right := by
  obtain ⟨c, x, rfl⟩ := List.exists_cons_of_ne_nil hne
  rcases List.mem_cons.1 harrow with rfl | harrow
  · cases x with
    | nil =>
        -- what is left of the arrow is no blank, and no arrow starts with it
        obtain ⟨blanks, arrow', heq, -, hblanks, harrow'⟩ := h
        have htail : '>' :: rest = blanks ++ (arrow' ++ right) := (List.cons.inj heq).2
        have hafter : afterArrow? (Text.trimLeft (blanks ++ (arrow' ++ right))) = some right :=
          afterArrow?_trimLeft hblanks harrow'
        rw [← htail, Text.trimLeft_of_not_blank rfl] at hafter
        cases hafter
    | cons d x =>
        obtain ⟨_, _, heq, -⟩ := id h
        simp only [List.cons_append, List.nil_append, List.cons.injEq] at heq
        obtain ⟨rfl, rfl, -⟩ := heq
        exact ⟨x, rfl, h.of_append ['-', '>']⟩
  · obtain rfl := List.mem_singleton.1 harrow
    obtain ⟨_, _, heq, -⟩ := id h
    obtain rfl : '→' = c := (List.cons.inj heq).1
    exact ⟨x, rfl, h.of_append ['→']⟩

/-! ## The reader takes the longest left side -/

theorem isCut_of_cutAtLastArrow? (h : cutAtLastArrow? cs = some (left, right)) :
    left ≠ [] ∧ IsCut cs left right := by
  induction cs generalizing left with
  | nil => cases h
  | cons c cs ih =>
      rw [cutAtLastArrow?] at h
      split at h
      · cases h
      · next hc =>
          have hc : Text.isBlank c = false := Bool.eq_false_iff.2 hc
          split at h
          · next before after hcut =>
              cases h
              obtain ⟨-, blanks, arrow, rfl, hleft, hblanks, harrow⟩ := ih hcut
              exact ⟨List.cons_ne_nil _ _, blanks, arrow, rfl, List.forall_mem_cons.2 ⟨hc, hleft⟩,
                hblanks, harrow⟩
          · obtain ⟨after, hafter, h⟩ := Option.map_eq_some_iff.1 h
            cases h
            obtain ⟨arrow, harrow, rfl⟩ := afterArrow?_eq_some_iff.1 hafter
            exact ⟨List.cons_ne_nil _ _, [], arrow, rfl, List.forall_mem_singleton.2 hc,
              (fun _ hc => nomatch hc), harrow⟩

theorem exists_cutAtLastArrow? (hne : left ≠ []) (hleft : ∀ c ∈ left, Text.isBlank c = false)
    (harrow : arrow ∈ arrows) :
    ∃ left' right', cutAtLastArrow? (left ++ (arrow ++ right)) = some (left', right') ∧
      left.length ≤ left'.length := by
  induction left with
  | nil => exact absurd rfl hne
  | cons c left ih =>
      obtain ⟨hc, hleft⟩ := List.forall_mem_cons.1 hleft
      rw [List.cons_append, cutAtLastArrow?, hc, if_neg Bool.false_ne_true]
      cases hcut : cutAtLastArrow? (left ++ (arrow ++ right)) with
      | some found =>
          refine ⟨_, _, rfl, Nat.succ_le_succ ?_⟩
          cases left with
          | nil => exact Nat.zero_le _
          | cons d left =>
              obtain ⟨left', right', h, hlen⟩ := ih (List.cons_ne_nil d left) hleft
              rw [hcut] at h
              cases h
              exact hlen
      | none =>
          cases left with
          | nil =>
              have hafter : afterArrow? ([] ++ (arrow ++ right)) = some right :=
                afterArrow?_eq_some_iff.2 ⟨arrow, harrow, rfl⟩
              rw [hafter]
              exact ⟨_, _, rfl, Nat.le_refl _⟩
          | cons d left =>
              obtain ⟨left', right', h, -⟩ := ih (List.cons_ne_nil d left) hleft
              rw [hcut] at h
              cases h

theorem isCut_of_ruleSides? (h : ruleSides? cs = some (left, right)) :
    left ≠ [] ∧ IsCut (Text.trimLeft cs) left right := by
  unfold ruleSides? at h
  dsimp only at h
  generalize Text.trimLeft cs = cs at h ⊢
  split at h
  · next after hafter =>
      split at h
      · cases h
      · next hrun =>
          cases h
          obtain ⟨arrow, harrow, htail⟩ := afterArrow?_eq_some_iff.1 hafter
          refine ⟨by simpa using hrun,
            (cs.dropWhile fun c => !Text.isBlank c).takeWhile Text.isBlank, arrow, ?_,
            fun c hc => ?_, fun c hc => List.mem_takeWhile_imp hc, harrow⟩
          · rw [← htail, Text.trimLeft, List.takeWhile_append_dropWhile,
              List.takeWhile_append_dropWhile]
          · simpa using List.mem_takeWhile_imp hc
  · exact isCut_of_cutAtLastArrow? h

theorem exists_ruleSides? (hne : left ≠ []) (h : IsCut (Text.trimLeft cs) left right) :
    ∃ left' right', ruleSides? cs = some (left', right') ∧ left.length ≤ left'.length := by
  unfold ruleSides?
  dsimp only
  generalize Text.trimLeft cs = cs at h ⊢
  obtain ⟨blanks, arrow, rfl, hleft, hblanks, harrow⟩ := h
  have hpos : ∀ c ∈ left, (!Text.isBlank c) = true := fun c hc => by rw [hleft c hc]; rfl
  rw [List.takeWhile_append_of_pos hpos, List.dropWhile_append_of_pos hpos]
  split
  · rw [if_neg (by simp [hne])]
    refine ⟨_, _, rfl, ?_⟩
    rw [List.length_append]
    exact Nat.le_add_right _ _
  · next hnone =>
      cases blanks with
      | nil =>
          rw [List.nil_append]
          exact exists_cutAtLastArrow? hne hleft harrow
      | cons c blanks =>
          -- the run ends where the blanks begin, and the arrow is found after them
          have hc := hblanks c List.mem_cons_self
          rw [List.cons_append, List.dropWhile_cons_of_neg (by simp [hc]), ← List.cons_append,
            afterArrow?_trimLeft hblanks harrow] at hnone
          cases hnone

/-! ## A line that starts with a label -/

/-- What cutting a line asks of the label it starts with. -/
structure StartsLine (label : List Char) : Prop where
  ne_nil : label ≠ []
  not_blank : ∀ c ∈ label, Text.isBlank c = false
  no_arrow : ∀ c ∈ label, c ≠ '-' ∧ c ≠ '→'
  no_hash : ∀ c ∈ label, c ≠ '#'

theorem StartsLine.trimLeft_append {label before : List Char} (hlabel : StartsLine label)
    (hbefore : ∀ c ∈ before, Text.isBlank c = true) :
    Text.trimLeft (before ++ (label ++ rest)) = label ++ rest := by
  rw [trimLeft_append_of_blank hbefore]
  cases label with
  | nil => exact absurd rfl hlabel.ne_nil
  | cons c label => exact Text.trimLeft_of_not_blank (hlabel.not_blank c List.mem_cons_self)

theorem toNat_of_isIdentifierChar (h : isIdentifierChar c = true) :
    48 ≤ c.toNat ∧ c.toNat ≤ 122 := by
  have hbetween : ∀ {low high : Char}, low.val ≤ c.val → c.val ≤ high.val →
      48 ≤ low.toNat → high.toNat ≤ 122 → 48 ≤ c.toNat ∧ c.toNat ≤ 122 :=
    fun hlow hhigh h48 h122 => ⟨Nat.le_trans h48 (UInt32.le_iff_toNat_le.1 hlow),
      Nat.le_trans (UInt32.le_iff_toNat_le.1 hhigh) h122⟩
  rcases Bool.or_eq_true_iff.1 h with halnum | hunderscore
  · rcases Bool.or_eq_true_iff.1 halnum with halpha | hdigit
    · rcases Bool.or_eq_true_iff.1 halpha with hupper | hlower
      · obtain ⟨hlow, hhigh⟩ := of_decide_eq_true hupper
        exact hbetween hlow hhigh (by decide) (by decide)
      · obtain ⟨hlow, hhigh⟩ := Bool.and_eq_true_iff.1 hlower
        exact hbetween (of_decide_eq_true hlow) (of_decide_eq_true hhigh) (by decide) (by decide)
    · obtain ⟨hlow, hhigh⟩ := Bool.and_eq_true_iff.1 hdigit
      exact hbetween (of_decide_eq_true hlow) (of_decide_eq_true hhigh) (by decide) (by decide)
  · rw [beq_iff_eq.1 hunderscore]
    decide

theorem not_blank_of_isIdentifierChar (h : isIdentifierChar c = true) : Text.isBlank c = false := by
  have hrange := toNat_of_isIdentifierChar h
  rw [Bool.eq_false_iff]
  intro hblank
  simp only [Text.isBlank, Bool.or_eq_true, Bool.and_eq_true, decide_eq_true_eq,
    beq_iff_eq] at hblank
  omega

theorem isIdentifierChar_or_of_isIdentifier (h : isIdentifier cs = true) :
    ∀ c ∈ cs, isIdentifierChar c = true ∨ c = '\'' := by
  cases cs with
  | nil => cases h
  | cons d cs =>
      simp only [isIdentifier, Bool.and_eq_true, Bool.or_eq_true, beq_iff_eq,
        decide_eq_true_eq] at h
      obtain ⟨hcapital, hrest⟩ := h
      intro c hc
      rw [List.mem_cons, ← List.takeWhile_append_dropWhile (p := isIdentifierChar) (l := cs),
        List.mem_append] at hc
      rcases hc with rfl | hc | hc
      · have hupper : c.isUpper = true := decide_eq_true hcapital
        have halpha : c.isAlpha = true := Bool.or_eq_true_iff.2 (Or.inl hupper)
        have halnum : c.isAlphanum = true := Bool.or_eq_true_iff.2 (Or.inl halpha)
        exact Or.inl (Bool.or_eq_true_iff.2 (Or.inl halnum))
      · exact Or.inl (List.mem_takeWhile_imp hc)
      · rcases hrest with hrest | hrest
        · rw [hrest] at hc
          cases hc
        · rw [hrest] at hc
          exact Or.inr (List.mem_singleton.1 hc)

theorem readLeftSide_text_eq_ok {spelling : Spelling} {text label : String}
    (h : readLeftSide spelling (.text text) = .ok label) :
    spelling.isLeftSide (Text.trim text.toList) = true ∧ label.toList = Text.trim text.toList := by
  unfold readLeftSide at h
  dsimp only at h
  split at h
  · cases h
  · split at h
    · next hleft =>
        cases h
        exact ⟨hleft, String.toList_ofList⟩
    · cases h

theorem startsLine_of_readLeftSide {spelling : Spelling} {label : String}
    (h : readLeftSide spelling (.text label) = .ok label) : StartsLine label.toList := by
  have hsigns : ∀ d ∈ ['-', '→', '#'],
      Text.isUppercase d = false ∧ isIdentifierChar d = false ∧ d ≠ '\'' := by
    rw [List.forall_mem_cons, List.forall_mem_cons, List.forall_mem_singleton]
    decide
  obtain ⟨hleft, htrim⟩ := readLeftSide_text_eq_ok h
  generalize label.toList = label at hleft htrim ⊢
  rw [← htrim] at hleft
  -- the signs are not among the characters of a label
  suffices hchars : label ≠ [] ∧ ∀ c ∈ label, Text.isBlank c = false ∧ c ∉ ['-', '→', '#'] by
    have hno : ∀ c ∈ label, ∀ d ∈ ['-', '→', '#'], c ≠ d :=
      fun c hc d hd e => (hchars.2 c hc).2 (e ▸ hd)
    exact ⟨hchars.1, fun c hc => (hchars.2 c hc).1,
      fun c hc => ⟨hno c hc _ (by simp), hno c hc _ (by simp)⟩, fun c hc => hno c hc _ (by simp)⟩
  cases spelling with
  | compact =>
      obtain ⟨hlen, hany⟩ := Bool.and_eq_true_iff.1 hleft
      obtain ⟨c, rfl⟩ := List.length_eq_one_iff.1 (beq_iff_eq.1 hlen)
      refine ⟨List.cons_ne_nil c [], List.forall_mem_singleton.2 ⟨?_, fun hc => ?_⟩⟩
      · rw [Bool.eq_false_iff]
        intro hblank
        simp [Text.trim, Text.trimLeft, Text.trimRight, hblank] at htrim
      · have hcapital : Text.isUppercase c = true := by simpa using hany
        rw [(hsigns c hc).1] at hcapital
        cases hcapital
  | spaced =>
      refine ⟨fun e => ?_, fun c hc => ?_⟩
      · rw [e] at hleft
        cases hleft
      · rcases isIdentifierChar_or_of_isIdentifier hleft c hc with hchar | rfl
        · refine ⟨not_blank_of_isIdentifierChar hchar, fun hsign => ?_⟩
          rw [(hsigns c hsign).2.1] at hchar
          cases hchar
        · exact ⟨rfl, fun hsign => (hsigns _ hsign).2.2 rfl⟩

variable {label between : List Char}

/-- A cut with a longer left side than the label has takes the arrow into it, and then the
text after the arrow has a cut. -/
theorem exists_isCut_of_length_lt (harrow : arrow ∈ arrows)
    (hbetween : ∀ c ∈ between, Text.isBlank c = true)
    (h : IsCut (label ++ (between ++ (arrow ++ rest))) left right)
    (hlt : label.length < left.length) :
    between = [] ∧ ∃ p, left = label ++ (arrow ++ p) ∧ IsCut rest p right := by
  obtain ⟨x, rfl⟩ := h.exists_append (Nat.le_of_lt hlt)
  have hne : x ≠ [] := by
    rintro rfl
    simp at hlt
  have hx := h.of_append label
  cases between with
  | cons d between =>
      have hblank := hbetween d List.mem_cons_self
      rw [hx.not_blank_of_cons hne] at hblank
      cases hblank
  | nil =>
      obtain ⟨p, rfl, hp⟩ := hx.exists_of_arrow harrow hne
      exact ⟨rfl, p, rfl, hp⟩

/-- The line is cut at the arrow that follows the label, unless no blank stands between them
and the text after the arrow has a cut. -/
theorem ruleSides?_of_no_cut {before : List Char} (hlabel : StartsLine label)
    (harrow : arrow ∈ arrows) (hbefore : ∀ c ∈ before, Text.isBlank c = true)
    (hbetween : ∀ c ∈ between, Text.isBlank c = true)
    (hno : between ≠ [] ∨ ¬ ∃ left right, IsCut rest left right) :
    ruleSides? (before ++ (label ++ (between ++ (arrow ++ rest)))) = some (label, rest) := by
  have hline : Text.trimLeft (before ++ (label ++ (between ++ (arrow ++ rest)))) =
      label ++ (between ++ (arrow ++ rest)) := hlabel.trimLeft_append hbefore
  have hcut : IsCut (label ++ (between ++ (arrow ++ rest))) label rest :=
    ⟨between, arrow, rfl, hlabel.not_blank, hbetween, harrow⟩
  obtain ⟨left, right, h, hlen⟩ := exists_ruleSides? hlabel.ne_nil (hline ▸ hcut)
  have hcut' := (isCut_of_ruleSides? h).2
  rw [hline] at hcut'
  rcases Nat.lt_or_eq_of_le hlen with hlt | heq
  · obtain ⟨hnil, p, -, hrest⟩ := exists_isCut_of_length_lt harrow hbetween hcut' hlt
    exact (hno.elim (· hnil) (· ⟨p, right, hrest⟩)).elim
  · obtain ⟨rfl, rfl⟩ := hcut.unique hcut' heq
    exact h

/-- Otherwise the arrow goes into the left side. -/
theorem exists_ruleSides?_of_cut {before : List Char} (hlabel : StartsLine label)
    (harrow : arrow ∈ arrows) (hbefore : ∀ c ∈ before, Text.isBlank c = true)
    (hrest : IsCut rest left right) :
    ∃ p right',
      ruleSides? (before ++ (label ++ (arrow ++ rest))) = some (label ++ (arrow ++ p), right') ∧
        ∀ c ∈ p, Text.isBlank c = false := by
  have hline : Text.trimLeft (before ++ (label ++ (arrow ++ rest))) = label ++ (arrow ++ rest) :=
    hlabel.trimLeft_append hbefore
  obtain ⟨blanks, arrow', rfl, hleft, hblanks, harrow'⟩ := hrest
  have hcut : IsCut (label ++ (arrow ++ (left ++ (blanks ++ (arrow' ++ right)))))
      (label ++ (arrow ++ left)) right := by
    refine ⟨blanks, arrow', by simp only [List.append_assoc], ?_, hblanks, harrow'⟩
    exact List.forall_mem_append.2 ⟨hlabel.not_blank,
      List.forall_mem_append.2 ⟨not_blank_of_mem_arrows harrow, hleft⟩⟩
  have hne : label ++ (arrow ++ left) ≠ [] := List.append_ne_nil_of_left_ne_nil hlabel.ne_nil _
  obtain ⟨left', right', h, hlen⟩ := exists_ruleSides? hne (hline ▸ hcut)
  have hcut' := (isCut_of_ruleSides? h).2
  rw [hline] at hcut'
  have hlt : label.length < left'.length := by
    have hpos := List.length_pos_iff.2 (ne_nil_of_mem_arrows harrow)
    rw [List.length_append, List.length_append] at hlen
    omega
  have hnil : ∀ c ∈ ([] : List Char), Text.isBlank c = true := fun _ hc => nomatch hc
  obtain ⟨-, p, rfl, -, -, -, hp, -⟩ := exists_isCut_of_length_lt harrow hnil hcut' hlt
  exact ⟨p, right', h, hp⟩

end ContextFree
