import ContextFree.Proofs.LoadedRules
import ContextFree.Proofs.Processing
import ContextFree.Proofs.TwoReaders
import ContextFree.Service.Session

/-!
# A grammar is read back from its table

The table of a grammar has an entry for every variable, with the labels of its rules in
arrays, and says nothing of kinds. The reader of entries trims the labels of such an array
and passes over those that are blank, so a table comes back if its labels are trimmed. They
are: readers trim them, processing brings no terminals, and a variable that stands on the
left of a rule is trimmed too.

A variable without rules has an empty array, which is not read as an array of arrays, and
the rule for the empty word has its mark, which is dropped when the rule is loaded.
-/

namespace ContextFree

variable {spelling : Spelling} {a lhs : String} {labels : List String}
  {alternatives : List (List String)}

/-! ## Arrays of labels -/

theorem labelsOfItems_text (h : ∀ a ∈ labels, IsTrimmed a) :
    labelsOfItems (labels.map .text) = labels := by
  induction labels with
  | nil => rfl
  | cons a labels ih =>
      obtain ⟨⟨hne, htrim⟩, hlabels⟩ := List.forall_mem_cons.1 h
      have hsome : (Text.trim a.toList).isEmpty = false := by simpa [htrim] using hne
      rw [List.map_cons, labelsOfItems, List.filterMap_cons]
      dsimp only
      rw [hsome, htrim, String.ofList_toList]
      exact congrArg (a :: ·) (ih hlabels)

theorem readRightSide_arrays (h : ∀ labels ∈ alternatives, ∀ a ∈ labels, IsTrimmed a) :
    readRightSide spelling lhs
      (.array (alternatives.map fun labels => .array (labels.map .text))) = .ok alternatives := by
  have harrays : arrays? (alternatives.map fun labels => .array (labels.map .text)) =
      some (alternatives.map (·.map .text)) := by
    rw [arrays?, List.mapM_map]
    exact List.mapM_pure
  have hlabels : (alternatives.map (·.map .text)).map labelsOfItems = alternatives := by
    rw [List.map_map]
    exact (List.map_congr_left fun labels hl => labelsOfItems_text (h labels hl)).trans
      (List.map_id _)
  cases alternatives with
  | nil => rfl
  | cons labels alternatives =>
      rw [List.map_cons] at harrays ⊢
      unfold readRightSide
      dsimp only
      rw [harrays]
      exact congrArg Except.ok hlabels

theorem isTrimmed_of_readLeftSide (h : readLeftSide spelling (.text a) = .ok a) :
    IsTrimmed a :=
  ⟨(not_emptyMark_of_isVariableLabel (isVariableLabel_of_readLeftSide h)).1,
    (readLeftSide_text_eq_ok h).2.symm⟩

namespace Grammar

variable {g g' : Grammar} {rhs : Rhs}

theorem isTrimmed_of_mem_labels (h : ∀ s ∈ rhs, IsTrimmed s.label) :
    ∀ a ∈ rhs.labels, IsTrimmed a := by
  cases rhs with
  | nil => exact List.forall_mem_singleton.2 ⟨by decide, rfl⟩
  | cons s rhs => exact List.forall_mem_map.2 h

/-! ## Entries of a table -/

theorem entriesOf_tableValue (g : Grammar) : entriesOf (Service.tableValue g) =
    .ok (g.variableLabels.map fun a => (.text a, .array (((g.rulesOf a).map Rhs.labels).map
      fun labels => .array (labels.map .text)))) := by
  simp [Service.tableValue, table, entriesOf, entries_eq, rulesOf, Function.comp_def]

/-- A grammar that was read and then simplified or converted is read back from its table, in
every spelling in which its variables may stand on the left of a rule. -/
theorem exists_ofEntries_tableValue (hg : g.IsRead) (h : g.Processed g')
    (hlabels : ∀ a ∈ g'.variableLabels, readLeftSide spelling (.text a) = .ok a)
    (bounded : Bool) :
    ∃ k, ofEntries spelling bounded (.text g'.start) (Service.tableValue g') = .ok k ∧
      g'.SameRules k := by
  obtain ⟨hwf, huses⟩ := h.uses hg.wellFormed
  have htrimmed : ∀ a, ∀ rhs ∈ g'.rulesOf a, ∀ b ∈ rhs.labels, IsTrimmed b := by
    intro a rhs hr
    refine isTrimmed_of_mem_labels fun s hs => ?_
    cases s with
    | terminal t => exact hg.isTrimmed t (hg.wellFormed.terminal_mem t (huses t (.intro hr hs)))
    | nonterminal b => exact isTrimmed_of_readLeftSide (hlabels b (hwf.closed.mem hr hs))
  have hentries : (g'.variableLabels.map fun a => (Json.text a,
      Json.array (((g'.rulesOf a).map Rhs.labels).map fun labels =>
        .array (labels.map .text)))).mapM (readEntry spelling) =
      .ok (g'.variableLabels.map fun a => (a, (g'.rulesOf a).map Rhs.labels)) := by
    rw [List.mapM_map]
    refine mapM_eq_ok_map fun a ha => ?_
    refine bind_eq_ok_iff.2 ⟨a, hlabels a ha, bind_eq_ok_iff.2 ⟨_, ?_, rfl⟩⟩
    exact readRightSide_arrays (List.forall_mem_map.2 (htrimmed a))
  have hrules : ∀ a ∈ g'.variableLabels,
      ((g'.rulesOf a).map Rhs.labels).map symbolsOfLabels = g'.rulesOf a := by
    intro a _
    rw [List.map_map]
    refine (List.map_congr_left fun rhs hr => symbolsOfLabels_labels fun s hs => ?_).trans
      (List.map_id _)
    exact h.fitsLabel hg (fun b hb => isVariableLabel_of_readLeftSide (hlabels b hb)) (.intro hr hs)
  refine ⟨_, ofEntries_eq_ok bounded (hlabels _ hwf.start_mem) (entriesOf_tableValue g') hentries
    (by simpa using hwf.start_mem), ?_⟩
  refine sameRules_loadAll (k := (blank g'.start bounded).addVariable g'.start) hwf rfl
    (fun a => ruleSet_addVariable ..) ?_ hrules
  intro a ha
  obtain ha | rfl := mem_variableLabels_addVariable.1 ha
  · cases ha
  · exact hwf.start_mem

/-- A label with a blank in it, rules for the empty word and a variable without rules; and a
grammar in normal form, with new variables. -/
theorem exists_ofEntries_tableValue_odd :
    (∃ g, ofEntries .compact false (.text "S") (.object [
        ("A", .array [.array [.text " a b ", .text "λ", .text "B"], .array []]),
        ("S", .text "aA#A | ε")]) = .ok g ∧
      ∃ k, ofEntries .compact true (.text g.start) (Service.tableValue g) = .ok k ∧
        g.SameRules k) ∧
    ∃ g', (Transform.toNormalForm none 10).run matchedLetters = .ok () g' ∧
      ∃ k, ofEntries .spaced false (.text g'.start) (Service.tableValue g') = .ok k ∧
        g'.SameRules k := by
  refine ⟨?_, ?_⟩
  · obtain ⟨g, h, hvars⟩ : ∃ g, ofEntries .compact false (.text "S") (.object [
        ("A", .array [.array [.text " a b ", .text "λ", .text "B"], .array []]),
        ("S", .text "aA#A | ε")]) = .ok g ∧ g.variableLabels = ["S", "A", "B"] := ⟨_, rfl, rfl⟩
    refine ⟨g, h, exists_ofEntries_tableValue (.entries h) .refl ?_ true⟩
    rw [hvars]
    exact List.forall_mem_cons.2 ⟨rfl, List.forall_mem_cons.2 ⟨rfl, List.forall_mem_singleton.2 rfl⟩⟩
  · obtain ⟨g', h, hvars⟩ : ∃ g', (Transform.toNormalForm none 10).run matchedLetters =
        .ok () g' ∧ g'.variableLabels = ["A", "S", "B", "C", "D"] := ⟨_, rfl, by decide +kernel⟩
    refine ⟨g', h, exists_ofEntries_tableValue isRead_matchedLetters (.toNormalForm .refl h) ?_
      false⟩
    rw [hvars]
    exact List.forall_mem_cons.2 ⟨rfl, List.forall_mem_cons.2 ⟨rfl, List.forall_mem_cons.2
      ⟨rfl, List.forall_mem_cons.2 ⟨rfl, List.forall_mem_singleton.2 rfl⟩⟩⟩⟩

end Grammar

end ContextFree
