import ContextFree.Proofs.RuleLines

/-!
# Two readers of the same rules

Rules can be given as lines of a text or as entries of a structured grammar. One reader
cuts lines, passes some of them over and searches for arrows, the other one takes the sides
as they are given, so a right side with arrows, bars or a `#` in it means the same to both
only because the line is cut where it was put together. It is: a label is followed by a
blank, and then no later arrow counts.

The order in which symbols are registered differs in one point. The reader of entries
registers the start symbol before anything else. If that is the label of the first rule,
loading this rule does the same first.
-/

namespace ContextFree

/-! ## The lines of a joined text -/

namespace Text

variable {l cs : List Char} {texts : List String}

/-- A line ends at a line feed. -/
theorem lines_append_newline (hl : ∀ c ∈ l, isLineBreak c = false) :
    lines (l ++ '\n' :: cs) = l :: lines cs := by
  induction l with
  | nil => simp [lines, show isLineBreak '\n' = true from rfl]
  | cons c l ih =>
      obtain ⟨hc, hl⟩ := List.forall_mem_cons.1 hl
      rw [List.cons_append, lines_cons hc, ih hl]

/-- Lines that are joined by line feeds are the lines of the text. -/
theorem lines_join (hne : ∀ t ∈ texts, t.toList ≠ [])
    (hbreak : ∀ t ∈ texts, ∀ c ∈ t.toList, isLineBreak c = false) :
    lines ("\n".intercalate texts).toList = texts.map String.toList := by
  induction texts with
  | nil => rfl
  | cons t texts ih =>
      rw [List.forall_mem_cons] at hne hbreak
      cases texts with
      | nil =>
          rw [String.intercalate_singleton, lines_of_no_break hne.1 hbreak.1]
          rfl
      | cons u texts =>
          have hcut : (t ++ "\n" ++ "\n".intercalate (u :: texts)).toList =
              t.toList ++ '\n' :: ("\n".intercalate (u :: texts)).toList := by simp
          rw [String.intercalate_cons_cons, hcut, lines_append_newline hbreak.1, ih hne.2 hbreak.2]
          rfl

end Text

/-! ## What each reader takes from a rule -/

theorem mapM_eq_ok_map {ε α β : Type} {f : α → Except ε β} {g : α → β} {as : List α}
    (h : ∀ a ∈ as, f a = .ok (g a)) : as.mapM f = .ok (as.map g) := by
  induction as with
  | nil => rfl
  | cons a as ih =>
      rw [List.forall_mem_cons] at h
      rw [List.mapM_cons, h.1, ih h.2]
      rfl

variable {spelling : Spelling} {α : Type} {items : List α} {line : α → String}
  {rule : α → String × List (List String)}

/-- If every line holds a rule, the lines are read as these rules. -/
theorem readLines_of_lines {text : String}
    (hlines : Text.lines text.toList = items.map fun a => (line a).toList)
    (h : ∀ a ∈ items, HoldsRule spelling (line a).toList (rule a)) :
    readLines spelling text = .ok (items.map rule) := by
  -- lines are numbered, but no number is used
  have hnumbered : ∀ number, (((items.map fun a => (line a).toList).zipIdx number).filter
      fun l => !isPassedOver l.1).mapM (fun l => readLine spelling l.2 l.1) =
        .ok (items.map rule) := by
    intro number
    clear hlines
    induction items generalizing number with
    | nil => rfl
    | cons a items ih =>
        obtain ⟨ha, hitems⟩ := List.forall_mem_cons.1 h
        rw [List.map_cons, List.zipIdx_cons, List.filter_cons_of_pos (by simp [ha.not_passed]),
          List.mapM_cons, ha.reads, ih hitems]
        rfl
  unfold readLines
  rw [hlines]
  exact hnumbered 1

theorem readLines_join (h : ∀ a ∈ items, HoldsRule spelling (line a).toList (rule a)) :
    readLines spelling ("\n".intercalate (items.map line)) = .ok (items.map rule) := by
  refine readLines_of_lines ?_ h
  rw [Text.lines_join, List.map_map]
  · rfl
  · exact List.forall_mem_map.2 fun a ha => (h a ha).ne_nil
  · exact List.forall_mem_map.2 fun a ha => (h a ha).no_break

namespace Grammar

/-- A rule on a line of a text. -/
def lineOf (r : String × String) : String := r.1 ++ " -> " ++ r.2

/-- A rule as an entry of a structured grammar. -/
def entryOf (r : String × String) : Json := .object [("lhs", .text r.1), ("rhs", .text r.2)]

/-- A rule as it is read. -/
def ruleOf (spelling : Spelling) (r : String × String) : String × List (List String) :=
  (r.1, spelling.alternatives r.2)

variable {rules : List (String × String)} {r : String × String}

theorem holdsRule_lineOf (hlabel : readLeftSide spelling (.text r.1) = .ok r.1)
    (hright : ∀ c ∈ r.2.toList, Text.isLineBreak c = false) :
    HoldsRule spelling (lineOf r).toList (ruleOf spelling r) := by
  have hempty : IsSpacing "" := isSpacing_of_all rfl
  have hspace : IsSpacing " " := isSpacing_of_all rfl
  have harrow : "->".toList ∈ arrows := List.mem_cons_self
  have hholds := holdsRule_line hlabel harrow hempty hspace hspace hright (Or.inl (by decide))
  have hline : "" ++ r.1 ++ " " ++ "->" ++ " " ++ r.2 = lineOf r := by
    rw [String.empty_append, lineOf, show " -> " = " " ++ "->" ++ " " from rfl]
    simp only [String.append_assoc]
  rwa [hline] at hholds

theorem readEntry_entryOf (hlabel : readLeftSide spelling (.text r.1) = .ok r.1) :
    readEntry spelling (.text r.1, .text r.2) = .ok (ruleOf spelling r) := by
  unfold readEntry
  dsimp only
  rw [hlabel]
  rfl

theorem entriesOf_entryOf (rules : List (String × String)) :
    entriesOf (.array (rules.map entryOf)) = .ok (rules.map fun r => (.text r.1, .text r.2)) := by
  rw [entriesOf, List.mapM_map]
  exact mapM_eq_ok_map fun _ _ => rfl

/-- A structured grammar is read if its start symbol and its entries are. -/
theorem ofEntries_eq_ok {start : String} {productions : Json} {entries : List (Json × Json)}
    {loaded : List (String × List (List String))} (bounded : Bool)
    (hstart : readLeftSide spelling (.text start) = .ok start)
    (hentries : entriesOf productions = .ok entries)
    (hloaded : entries.mapM (readEntry spelling) = .ok loaded)
    (hmem : start ∈ loaded.map Prod.fst) :
    ofEntries spelling bounded (.text start) productions =
      .ok (loaded.foldl (fun g r => g.load r.1 r.2) ((blank start bounded).addVariable start)) := by
  have hne : start.isEmpty = false := by
    rw [String.isEmpty_eq_false_iff]
    exact mt String.toList_eq_nil_iff.2 (startsLine_of_readLeftSide hstart).ne_nil
  have hsome : entries.isEmpty = false := by
    cases entries with
    | nil =>
        cases hloaded
        cases hmem
    | cons e entries => rfl
  unfold ofEntries
  dsimp only
  rw [hne, hstart, hentries]
  refine bind_eq_ok_iff.2 ⟨_, rfl, bind_eq_ok_iff.2 ⟨_, rfl, ?_⟩⟩
  rw [hsome]
  exact bind_eq_ok_iff.2 ⟨_, hloaded, if_pos (List.contains_iff_mem.2 hmem)⟩

/-- Loading rules of a variable registers the variable first, so nothing is gained by
registering it before. -/
theorem load_addVariable (g : Grammar) (label : String) (alternatives : List (List String)) :
    (g.addVariable label).load label alternatives = g.load label alternatives := by
  have hmem : label ∈ (g.addVariable label).rules.keys :=
    mem_variableLabels_addVariable.2 (Or.inr rfl)
  have htwice : (g.addVariable label).addVariable label = g.addVariable label := by
    rw [addVariable, OrderedMap.insertNew, dif_pos (OrderedMap.contains_iff.2 hmem)]
  rw [load, load, htwice]

/-- Lines of a text and entries of a structured grammar mean the same. -/
theorem ofText_eq_ofEntries (bounded : Bool) (hne : rules ≠ [])
    (hlabels : ∀ r ∈ rules, readLeftSide spelling (.text r.1) = .ok r.1)
    (hright : ∀ r ∈ rules, ∀ c ∈ r.2.toList, Text.isLineBreak c = false) :
    ∃ g, ofEntries spelling bounded (.text (rules.head hne).1) (.array (rules.map entryOf)) =
        .ok g ∧
      ofText spelling bounded none ("\n".intercalate (rules.map lineOf)) = .ok g := by
  obtain ⟨first, rest, rfl⟩ := List.exists_cons_of_ne_nil hne
  have hfirst : readLeftSide spelling (.text first.1) = .ok first.1 :=
    hlabels first List.mem_cons_self
  have hentries : (((first :: rest).map fun r => (Json.text r.1, Json.text r.2)).mapM
      (readEntry spelling)) = .ok ((first :: rest).map (ruleOf spelling)) := by
    rw [List.mapM_map]
    exact mapM_eq_ok_map fun r hr => readEntry_entryOf (hlabels r hr)
  have hlines : readLines spelling ("\n".intercalate ((first :: rest).map lineOf)) =
      .ok ((first :: rest).map (ruleOf spelling)) :=
    readLines_join fun r hr => holdsRule_lineOf (hlabels r hr) (hright r hr)
  have hmem : first.1 ∈ ((first :: rest).map (ruleOf spelling)).map Prod.fst := by
    simp [ruleOf]
  refine ⟨((first :: rest).map (ruleOf spelling)).foldl (fun g r => g.load r.1 r.2)
    (blank first.1 bounded), ?_, ?_⟩
  · rw [List.head_cons, ofEntries_eq_ok bounded hfirst (entriesOf_entryOf _) hentries hmem,
      List.map_cons, List.foldl_cons, List.foldl_cons,
      show (ruleOf spelling first).1 = first.1 from rfl, load_addVariable]
  · unfold ofText
    rw [hlines]
    exact if_pos (List.contains_iff_mem.2 hmem)

/-- Arrows, a `#`, bars and marks of the empty word stand where a line might be misread. -/
theorem ofText_eq_ofEntries_arrows :
    ∃ g, ofEntries .spaced true (.text "Np") (.array
        [entryOf ("Np", "-> Vp | # →"), entryOf ("Vp", "| ε"), entryOf ("Np", "\u3000-> ->|λ a")]) =
        .ok g ∧
      ofText .spaced true none "Np -> -> Vp | # →\nVp -> | ε\nNp -> \u3000-> ->|λ a" = .ok g :=
  ofText_eq_ofEntries true
    (List.cons_ne_nil ("Np", "-> Vp | # →") [("Vp", "| ε"), ("Np", "\u3000-> ->|λ a")])
    (List.forall_mem_cons.2 ⟨rfl, List.forall_mem_cons.2 ⟨rfl, List.forall_mem_singleton.2 rfl⟩⟩)
    (List.forall_mem_cons.2 ⟨no_break_of_all rfl,
      List.forall_mem_cons.2 ⟨no_break_of_all rfl, List.forall_mem_singleton.2 (no_break_of_all rfl)⟩⟩)

end Grammar

end ContextFree
