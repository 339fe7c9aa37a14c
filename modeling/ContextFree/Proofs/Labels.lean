import ContextFree.Grammar.Variable
import ContextFree.Proofs.Reading
import ContextFree.Proofs.Spelling

/-!
# The labels of a grammar that was read

The kind of a symbol is not a matter of its label, except while rules are read: there a
capital makes a variable. All that later relies on the convention goes back to two facts
about what readers take from a source, whichever shape it has. A left side starts with a
capital, and a label on a right side is trimmed and not empty. The rest is the doing of
loading, which drops the marks of the empty word, sorts the labels by their capitals, and
registers no terminal without giving the rule that has it to a variable.
-/

namespace ContextFree

variable {a t : String} {labels : List String}

theorem not_emptyMark_of_isVariableLabel (h : isVariableLabel a = true) :
    a ≠ "" ∧ a ∉ emptyMarks := by
  have hno : ∀ m ∈ "" :: emptyMarks, isVariableLabel m = false := by decide
  have hne : ∀ m ∈ "" :: emptyMarks, a ≠ m := by
    intro m hm e
    rw [e, hno m hm] at h
    cases h
  exact ⟨hne "" List.mem_cons_self, fun ha => hne a (List.mem_cons_of_mem _ ha) rfl⟩

/-! ## What readers take from a source -/

theorem isVariableLabel_of_isLeftSide {spelling : Spelling} {cs : List Char}
    (h : spelling.isLeftSide cs = true) : isVariableLabel (String.ofList cs) = true := by
  unfold isVariableLabel
  rw [String.toList_ofList]
  cases spelling with
  | compact =>
      obtain ⟨hlen, hany⟩ := Bool.and_eq_true_iff.1 h
      obtain ⟨c, rfl⟩ := List.length_eq_one_iff.1 (beq_iff_eq.1 hlen)
      simpa using hany
  | spaced =>
      cases cs with
      | nil => cases h
      | cons c cs =>
          simp only [Spelling.isLeftSide, isIdentifier, Bool.and_eq_true, decide_eq_true_eq] at h
          have hz : c.toNat ≤ 'Z'.toNat := h.1.2
          have hlow : c.toNat < 128 := Nat.lt_of_le_of_lt hz (by decide)
          simp [Text.isUppercase, hlow, h.1.1, h.1.2]

theorem isVariableLabel_of_readLeftSide {spelling : Spelling} {value : Json}
    (h : readLeftSide spelling value = .ok a) : isVariableLabel a = true := by
  unfold readLeftSide at h
  split at h
  · dsimp only at h
    split at h
    · cases h
    · split at h
      · next hleft =>
          cases h
          exact isVariableLabel_of_isLeftSide hleft
      · cases h
  · cases h

/-- The label is not empty, and no blanks stand around it. -/
def IsTrimmed (label : String) : Prop := label ≠ "" ∧ Text.trim label.toList = label.toList

theorem isTrimmed_of_isPlain {spelling : Spelling} (h : spelling.isPlain a = true) :
    IsTrimmed a := by
  refine ⟨Spelling.ne_empty_of_isPlain h, Text.trim_of_not_blank fun c hc => ?_⟩
  simpa using List.all_eq_true.1 (Bool.and_eq_true_iff.1 h).1 c hc

theorem isPlain_of_mem_alternatives {spelling : Spelling} {text : String}
    (h : labels ∈ spelling.alternatives text) (ha : a ∈ labels) : spelling.isPlain a = true := by
  obtain ⟨cs, -, rfl⟩ := List.mem_map.1 h
  exact Spelling.isPlain_of_mem_split (List.mem_filter.1 ha).1

theorem isTrimmed_of_mem_alternatives {spelling : Spelling} {text : String}
    (h : labels ∈ spelling.alternatives text) (ha : a ∈ labels) : IsTrimmed a :=
  isTrimmed_of_isPlain (isPlain_of_mem_alternatives h ha)

theorem isTrimmed_of_mem_labelsOfItems {items : List Json} (h : a ∈ labelsOfItems items) :
    IsTrimmed a := by
  obtain ⟨item, -, hitem⟩ := List.mem_filterMap.1 h
  split at hitem
  · dsimp only at hitem
    split at hitem
    · cases hitem
    · next s hne =>
        injection hitem with e
        subst e
        rw [IsTrimmed, String.toList_ofList, Text.trim_trim]
        exact ⟨fun e => hne (List.isEmpty_iff.2 (String.ofList_eq_empty_iff.1 e)), rfl⟩
  · cases hitem

theorem isTrimmed_of_readRightSide {spelling : Spelling} {lhs : String} {value : Json}
    {alternatives : List (List String)} (h : readRightSide spelling lhs value = .ok alternatives)
    (hl : labels ∈ alternatives) (ha : a ∈ labels) : IsTrimmed a := by
  unfold readRightSide at h
  split at h
  · cases h
    exact isTrimmed_of_mem_alternatives hl ha
  · cases h
    cases hl
  · split at h
    · cases h
      obtain ⟨items, -, rfl⟩ := List.mem_map.1 hl
      exact isTrimmed_of_mem_labelsOfItems ha
    · cases h
      obtain ⟨text, -, hl⟩ := List.mem_flatMap.1 hl
      exact isTrimmed_of_mem_alternatives hl ha
    · cases h
  · cases h

theorem exists_of_readLine {spelling : Spelling} {number : Nat} {line : List Char}
    {rule : String × List (List String)} (h : readLine spelling number line = .ok rule) :
    ∃ left right, readLeftSide spelling (.text left) = .ok rule.1 ∧
      spelling.alternatives right = rule.2 := by
  unfold readLine at h
  split at h
  · obtain ⟨label, hlabel, h⟩ := bind_eq_ok_iff.1 h
    cases h
    exact ⟨_, _, hlabel, rfl⟩
  · cases h

namespace Grammar

theorem IsReadRule.sides {rule : String × List (List String)} (h : IsReadRule rule) :
    isVariableLabel rule.1 = true ∧ ∀ labels ∈ rule.2, ∀ a ∈ labels, IsTrimmed a := by
  cases h with
  | line h =>
      obtain ⟨_, _, hlabel, halternatives⟩ := exists_of_readLine h
      rw [← halternatives]
      exact ⟨isVariableLabel_of_readLeftSide hlabel,
        fun _ hl _ => isTrimmed_of_mem_alternatives hl⟩
  | entry h =>
      obtain ⟨label, hlabel, h⟩ := bind_eq_ok_iff.1 h
      obtain ⟨alternatives, halternatives, h⟩ := bind_eq_ok_iff.1 h
      cases h
      exact ⟨isVariableLabel_of_readLeftSide hlabel,
        fun _ hl _ => isTrimmed_of_readRightSide halternatives hl⟩

end Grammar

/-! ## What loading makes of it -/

/-- The label fits the kind and does not stand for the empty word. -/
def Symbol.FitsLabel : Symbol → Prop
  | .terminal t => isVariableLabel t = false ∧ t ≠ "" ∧ t ∉ emptyMarks
  | .nonterminal a => isVariableLabel a = true

namespace Grammar

variable {g : Grammar} {s : Symbol}

/-- The convention on labels, as a grammar follows it while it is read and after. -/
structure Conventional (g : Grammar) : Prop where
  initialStart_eq : g.initialStart = g.start
  fitsLabel : ∀ s, g.Registers s → s.FitsLabel
  terminal_used : ∀ t, g.Registers (.terminal t) → g.Uses (.terminal t)

theorem fitsLabel_of_mem_symbolsOfLabels (h : "" ∉ labels) (hs : s ∈ symbolsOfLabels labels) :
    s.FitsLabel := by
  obtain ⟨a, ha, rfl⟩ := List.mem_map.1 hs
  obtain ⟨ha, hmark⟩ := List.mem_filter.1 ha
  unfold Symbol.ofLabel
  split
  · next hcapital => exact hcapital
  · next hcapital =>
      exact ⟨Bool.eq_false_iff.2 hcapital, fun e => h (e ▸ ha), by simpa using hmark⟩

theorem Conventional.loadAll (hg : g.Conventional) {rules : List (String × List (List String))}
    (h : ∀ r ∈ rules, isVariableLabel r.1 = true ∧ ∀ labels ∈ r.2, "" ∉ labels) :
    (rules.foldl (fun g r => g.load r.1 r.2) g).Conventional where
  initialStart_eq := by
    obtain ⟨_, _, e⟩ := sameSettings_loadAll rules g
    rw [e]
    exact hg.initialStart_eq
  fitsLabel := by
    intro s hs
    obtain hs | ⟨r, hr, rfl | ⟨labels, hl, hs⟩⟩ := registers_loadAll.1 hs
    · exact hg.fitsLabel s hs
    · exact (h r hr).1
    · exact fitsLabel_of_mem_symbolsOfLabels ((h r hr).2 labels hl) hs
  terminal_used := by
    intro t ht
    obtain ht | ⟨r, hr, e | ⟨labels, hl, hs⟩⟩ := registers_loadAll.1 ht
    · obtain ⟨b, rhs, hb, hs⟩ := hg.terminal_used t ht
      exact .intro (mem_rulesOf_loadAll.2 (Or.inl hb)) hs
    · cases e
    · exact .intro (mem_rulesOf_loadAll.2 (Or.inr ⟨r, hr, rfl, labels, hl, rfl⟩)) hs

theorem conventional_blank (start : String) (bounded : Bool) :
    (blank start bounded).Conventional where
  initialStart_eq := rfl
  fitsLabel := by
    intro s hs
    cases s <;> cases hs
  terminal_used := fun _ ht => nomatch ht

theorem IsRead.conventional (hg : g.IsRead) : g.Conventional := by
  obtain ⟨start, bounded, rules, -, hrules, rfl⟩ := hg.exists_rules
  refine (conventional_blank start bounded).loadAll fun r hr => ?_
  obtain ⟨hcapital, htrimmed⟩ := (hrules r hr).sides
  exact ⟨hcapital, fun labels hl hmem => (htrimmed labels hl "" hmem).1 rfl⟩

/-- What can be relied on in a grammar that was read. -/
structure Tidy (g : Grammar) : Prop where
  /-- The start symbol is registered. -/
  start_mem : g.start ∈ g.variableLabels
  /-- It is the one that the grammar was given first. -/
  initialStart_eq : g.initialStart = g.start
  /-- Nothing is remembered of the empty word. -/
  acceptsEmpty_eq : g.acceptsEmpty = false
  /-- Variables start with a capital. -/
  capital : ∀ a ∈ g.variableLabels, isVariableLabel a = true
  /-- Terminals do not. -/
  no_capital : ∀ t ∈ g.terminals, isVariableLabel t = false
  /-- So no label is both. -/
  disjoint : ∀ a ∈ g.variableLabels, a ∉ g.terminals
  /-- No label is empty or stands for the empty word. -/
  not_mark : ∀ a, a ∈ g.variableLabels ∨ a ∈ g.terminals → a ≠ "" ∧ a ∉ emptyMarks
  /-- The symbols of a rule are registered under their kinds. -/
  registers : ∀ a, ∀ rhs ∈ g.rulesOf a, ∀ s ∈ rhs, g.Registers s
  /-- Every terminal stands in some rule. -/
  terminal_used : ∀ t ∈ g.terminals, ∃ a, ∃ rhs ∈ g.rulesOf a, .terminal t ∈ rhs
  /-- The rules of a variable go by its label, and no two of them are equal. -/
  owned : ∀ a v, g.find? a = some v →
    (∀ p ∈ v.productions, p.lhs = a) ∧ (v.productions.map Production.rhs).Nodup

theorem find?_owned {v : Variable} (hv : g.find? a = some v) :
    (∀ p ∈ v.productions, p.lhs = a) ∧ (v.productions.map Production.rhs).Nodup := by
  obtain ⟨rules, -, rfl⟩ := Option.map_eq_some_iff.1 hv
  refine ⟨fun p hp => Variable.lhs_of_mem hp, ?_⟩
  rw [Variable.map_rhs_productions]
  exact rules.nodup

theorem tidy_of_isRead (hg : g.IsRead) : g.Tidy := by
  obtain ⟨hload, hstart⟩ := hg.exists_loading
  have hc := hg.conventional
  have hvars : ∀ a ∈ g.variableLabels, isVariableLabel a = true :=
    fun a ha => hc.fitsLabel (.nonterminal a) ha
  have hterms : ∀ t ∈ g.terminals, isVariableLabel t = false ∧ t ≠ "" ∧ t ∉ emptyMarks :=
    fun t ht => hc.fitsLabel (.terminal t) ht
  exact {
    start_mem := hstart
    initialStart_eq := hc.initialStart_eq
    acceptsEmpty_eq := hload.acceptsEmpty_eq
    capital := hvars
    no_capital := fun t ht => (hterms t ht).1
    disjoint := by
      intro a ha hat
      have hno := (hterms a hat).1
      rw [hvars a ha] at hno
      cases hno
    not_mark := by
      intro a hreg
      rcases hreg with ha | ha
      · exact not_emptyMark_of_isVariableLabel (hvars a ha)
      · exact (hterms a ha).2
    registers := fun a rhs hr s hs => hload.registers s (.intro hr hs)
    terminal_used := hc.terminal_used
    owned := fun a v => find?_owned }

/-- A source with a late entry for the start symbol, repeated alternatives, a variable
without rules, a label with a blank, a mark among labels and an item that is no label. -/
theorem tidy_of_odd_entries :
    ∃ g, Grammar.ofEntries .compact false (.text " S ") (.object [
        ("A", .array [.array [.text " a b ", .integer 5, .text "λ", .text "B"], .array []]),
        ("S", .array [.text "aA | ε", .text "A a|aA"])]) = .ok g ∧ g.Tidy := by
  obtain ⟨g, h⟩ : ∃ g, Grammar.ofEntries .compact false (.text " S ") (.object [
      ("A", .array [.array [.text " a b ", .integer 5, .text "λ", .text "B"], .array []]),
      ("S", .array [.text "aA | ε", .text "A a|aA"])]) = .ok g := ⟨_, rfl⟩
  exact ⟨g, h, tidy_of_isRead (.entries h)⟩

end Grammar

end ContextFree
