import ContextFree.EmptyWord
import ContextFree.Proofs.Derivation
import ContextFree.Proofs.Saturation
import ContextFree.Proofs.WellFormed

/-!
# Taking out the empty rules loses the empty word and no other

The rules that a variable has afterwards are the right-hand sides that are left
of its rules when some occurrences of nullable variables are left out, except
the empty one. `Rhs.Erases` states "what is left" without an order of deletions;
the rounds that add siblings delete one occurrence at a time, and reach them all
because the siblings found in a round are shorter than the rules they come from.

With that and the exactness of the nullable variables, a derivation is changed
into one without empty rules by leaving out every variable that derived the
empty word, and back by letting these variables derive it again.
-/

namespace ContextFree

variable {nullable : LabelSet} {r r' m : Rhs} {a : String} {s : Symbol} {w : Word}

/-- What is left of a right-hand side when some occurrences of variables of a set
are left out. -/
inductive Rhs.Erases (nullable : LabelSet) : Rhs → Rhs → Prop where
  | nil : Erases nullable [] []
  | keep {s : Symbol} {r r' : Rhs} : Erases nullable r r' → Erases nullable (s :: r) (s :: r')
  | drop {a : String} {r r' : Rhs} : nullable.contains a = true → Erases nullable r r' →
      Erases nullable (.nonterminal a :: r) r'

namespace Rhs

theorem Erases.refl : ∀ r : Rhs, Erases nullable r r
  | [] => .nil
  | _ :: r => .keep (refl r)

theorem Erases.sublist (e : Erases nullable r r') : r'.Sublist r := by
  induction e with
  | nil => exact .slnil
  | keep _ ih => exact ih.cons_cons _
  | drop _ _ ih => exact ih.cons _

theorem Erases.trans {r'' : Rhs} (e : Erases nullable r r') (e' : Erases nullable r' r'') :
    Erases nullable r r'' := by
  induction e generalizing r'' with
  | nil => exact e'
  | keep _ ih =>
      cases e' with
      | keep e' => exact .keep (ih e')
      | drop h e' => exact .drop h (ih e')
  | drop h _ ih => exact .drop h (ih e')

theorem erases_of_mem_deletions (h : m ∈ deletions nullable r) :
    Erases nullable r m ∧ m.length + 1 = r.length := by
  induction r generalizing m with
  | nil => cases h
  | cons s r ih =>
      have hkeep : ∀ {m}, m ∈ (deletions nullable r).map (s :: ·) →
          Erases nullable (s :: r) m ∧ m.length + 1 = (s :: r).length := by
        intro m hm
        obtain ⟨m', hm', rfl⟩ := List.mem_map.1 hm
        obtain ⟨e, hlen⟩ := ih hm'
        exact ⟨.keep e, congrArg (· + 1) hlen⟩
      cases s with
      | terminal t => exact hkeep h
      | nonterminal a =>
          unfold deletions at h
          simp only [] at h
          split at h
          · next ha =>
              rcases List.mem_cons.1 h with rfl | h
              · exact ⟨.drop ha (.refl m), rfl⟩
              · exact hkeep h
          · exact hkeep h

theorem Erases.eq_or_exists_deletion (e : Erases nullable r r') :
    r' = r ∨ ∃ m ∈ deletions nullable r, Erases nullable m r' := by
  induction e with
  | nil => exact Or.inl rfl
  | @keep s r r' _ ih =>
      rcases ih with rfl | ⟨m, hm, e⟩
      · exact Or.inl rfl
      · refine Or.inr ⟨s :: m, ?_, .keep e⟩
        cases s with
        | terminal t => exact List.mem_map_of_mem hm
        | nonterminal a =>
            unfold deletions
            simp only []
            split
            · exact List.mem_cons_of_mem _ (List.mem_map_of_mem hm)
            · exact List.mem_map_of_mem hm
  | @drop a r r' ha e _ =>
      refine Or.inr ⟨r, ?_, e⟩
      unfold deletions
      simp only [if_pos ha]
      exact List.mem_cons_self

theorem mem_siblings : m ∈ siblings nullable r ↔ 2 ≤ r.length ∧ m ∈ deletions nullable r := by
  unfold siblings
  split
  · next h =>
      refine ⟨fun hm => ?_, fun hm => ?_⟩
      · cases hm
      · have := hm.1
        omega
  · next h =>
      constructor
      · exact fun hm => ⟨by omega, hm⟩
      · exact And.right

end Rhs

/-! ## The rounds that add siblings -/

theorem addSiblings_mono {rounds : Nat} {known : OrderedSet Rhs} {latest : List Rhs}
    (h : r ∈ known) : r ∈ addSiblings nullable rounds known latest := by
  induction rounds generalizing known latest with
  | zero => exact h
  | succ rounds ih => exact ih (OrderedSet.mem_insertAll.2 (Or.inl h))

theorem addSiblings_induct {P : Rhs → Prop}
    (hstep : ∀ r, P r → ∀ m ∈ Rhs.siblings nullable r, P m) {rounds : Nat}
    {known : OrderedSet Rhs} {latest : List Rhs} (hknown : ∀ r ∈ known, P r)
    (hlatest : ∀ r ∈ latest, P r) (h : r ∈ addSiblings nullable rounds known latest) : P r := by
  induction rounds generalizing known latest with
  | zero => exact hknown r h
  | succ rounds ih =>
      have hfound : ∀ m ∈ known.additions (latest.flatMap (Rhs.siblings nullable)), P m := by
        intro m hm
        obtain ⟨r, hr, hm⟩ := List.mem_flatMap.1 (OrderedSet.mem_additions.1 hm).1
        exact hstep r (hlatest r hr) m hm
      refine ih (fun m hm => ?_) hfound h
      exact (OrderedSet.mem_insertAll.1 hm).elim (hknown m) (hfound m)

theorem length_le_of_mem_additions {known : OrderedSet Rhs} {latest : List Rhs} {n : Nat}
    (hlatest : ∀ r ∈ latest, r.length ≤ n + 1)
    (hm : m ∈ known.additions (latest.flatMap (Rhs.siblings nullable))) : m.length ≤ n := by
  obtain ⟨r, hr, hm⟩ := List.mem_flatMap.1 (OrderedSet.mem_additions.1 hm).1
  have hlen := (Rhs.erases_of_mem_deletions (Rhs.mem_siblings.1 hm).2).2
  have := hlatest r hr
  omega

/-- As many rounds as the latest rules have symbols leave no sibling out. -/
theorem addSiblings_closed {rounds : Nat} {known : OrderedSet Rhs} {latest : List Rhs}
    (hlatest : ∀ r ∈ latest, r.length ≤ rounds)
    (hold : ∀ r ∈ known, r ∈ latest ∨ ∀ m ∈ Rhs.siblings nullable r, m ∈ known)
    (hr : r ∈ addSiblings nullable rounds known latest) (hm : m ∈ Rhs.siblings nullable r) :
    m ∈ addSiblings nullable rounds known latest := by
  induction rounds generalizing known latest with
  | zero =>
      rcases hold r hr with hl | hs
      · have := hlatest r hl
        have := (Rhs.mem_siblings.1 hm).1
        omega
      · exact hs m hm
  | succ rounds ih =>
      refine ih (fun m => length_le_of_mem_additions hlatest) (fun q hq => ?_) hr
      rcases OrderedSet.mem_insertAll.1 hq with hq | hq
      · refine Or.inr fun m hm => OrderedSet.mem_insertAll.2 ?_
        rcases hold q hq with hl | hs
        · by_cases hk : m ∈ known
          · exact Or.inl hk
          · exact Or.inr (OrderedSet.mem_additions.2 ⟨List.mem_flatMap.2 ⟨q, hl, hm⟩, hk⟩)
        · exact Or.inl (hs m hm)
      · exact Or.inl hq

theorem prefix_addSiblings {rounds : Nat} {known : OrderedSet Rhs} {latest : List Rhs} :
    known.toList <+: (addSiblings nullable rounds known latest).toList := by
  induction rounds generalizing known latest with
  | zero => exact List.prefix_rfl
  | succ rounds ih =>
      refine List.IsPrefix.trans ?_ ih
      rw [OrderedSet.toList_insertAll]
      exact List.prefix_append ..

theorem le_foldl_max {l : List Nat} {n b : Nat} (h : n ≤ b ∨ n ∈ l) : n ≤ l.foldl max b := by
  induction l generalizing b with
  | nil => exact h.elim id (fun h => nomatch h)
  | cons k l ih =>
      refine ih ?_
      rcases h with h | h
      · exact Or.inl (by omega)
      · rcases List.mem_cons.1 h with rfl | h
        · exact Or.inl (by omega)
        · exact Or.inr h

/-- The rules of a variable without the empty rule are the non-empty right-hand
sides that are left of its rules when nullable variables are left out. -/
theorem mem_withoutEmpty {rules : OrderedSet Rhs} :
    r' ∈ withoutEmpty nullable rules ↔ r' ≠ [] ∧ ∃ r ∈ rules, Rhs.Erases nullable r r' := by
  have hkept : ∀ {r}, r ∈ rules.filter (fun rhs => !rhs.isEmpty) ↔ r ∈ rules ∧ r ≠ [] := by
    intro r
    rw [OrderedSet.mem_filter]
    simp
  refine ⟨fun h => ?_, fun hx => ?_⟩
  · have hbase : ∀ r ∈ rules.filter (fun rhs => !rhs.isEmpty),
        r ≠ [] ∧ ∃ q ∈ rules, Rhs.Erases nullable q r := by
      intro r hr
      exact ⟨(hkept.1 hr).2, r, (hkept.1 hr).1, .refl r⟩
    refine addSiblings_induct ?_ hbase hbase h
    intro r hx m hm
    obtain ⟨-, q, hq, e⟩ := hx
    obtain ⟨hlen, hm⟩ := Rhs.mem_siblings.1 hm
    obtain ⟨e', hlen'⟩ := Rhs.erases_of_mem_deletions hm
    exact ⟨List.ne_nil_of_length_pos (by omega), q, hq, e.trans e'⟩
  · obtain ⟨hne, r, hr, e⟩ := hx
    have hk : r ∈ withoutEmpty nullable rules := by
      refine addSiblings_mono (hkept.2 ⟨hr, ?_⟩)
      intro hx
      obtain rfl := hx
      exact hne (List.sublist_nil.1 e.sublist)
    clear hr
    -- the induction is on the number of symbols that are still to be left out
    generalize hn : r.length = n
    induction n using Nat.strongRecOn generalizing r with
    | ind n ih =>
        rcases e.eq_or_exists_deletion with rfl | ⟨m, hm, e⟩
        · exact hk
        · have hlen := (Rhs.erases_of_mem_deletions hm).2
          have hpos := List.length_pos_iff.2 hne
          have hle := e.sublist.length_le
          refine ih m.length (by omega) m e ?_ rfl
          refine addSiblings_closed (fun q hq => ?_) (fun q hq => Or.inl hq) hk
            (Rhs.mem_siblings.2 ⟨by omega, hm⟩)
          exact le_foldl_max (Or.inr (List.mem_map_of_mem hq))

/-! ## The nullable variables -/

namespace Rhs

theorem consistsOf_cons_nonterminal :
    consistsOf nullable (.nonterminal a :: r) = (nullable.contains a && consistsOf nullable r) :=
  rfl

theorem derives_of_consistsOf {g : Grammar}
    (h : ∀ b, nullable.contains b = true → Derives g [.nonterminal b] [])
    (hr : consistsOf nullable r = true) : Derives g r [] := by
  induction r with
  | nil => exact .nil
  | cons s r ih =>
      cases s with
      | terminal t => cases hr
      | nonterminal a =>
          rw [consistsOf_cons_nonterminal, Bool.and_eq_true] at hr
          exact derives_nonterminal_cons_iff.2 ⟨[], [], rfl, h a hr.1, ih hr.2⟩

end Rhs

namespace Grammar

variable {g : Grammar} {apart : Bool}

theorem nullable_eq (g : Grammar) (apart : Bool) :
    g.nullable apart =
      saturate (fun known rules => rules.toList.any (Rhs.consistsOf known))
        ((g.rules.entries.filter fun e => !e.2.toList.contains []).filter fun e =>
          !(apart && e.1 == g.initialStart))
        (.ofList ((g.rules.entries.filter fun e => e.2.toList.contains []).map Prod.fst)) := by
  unfold nullable
  rw [List.partition_eq_filter_filter]
  rfl

theorem nullable_of_mem (apart : Bool) (h : [] ∈ g.rulesOf a) :
    (g.nullable apart).contains a = true := by
  rw [nullable_eq]
  refine saturate_mono (LabelSet.contains_ofList_iff.2 ?_)
  refine List.mem_map.2 ⟨(a, g.ruleSet a), List.mem_filter.2 ⟨?_, ?_⟩, rfl⟩
  · exact mem_entries_iff.2 ⟨mem_variableLabels_of_mem h, rfl⟩
  · exact List.contains_iff_mem.2 h

theorem nullable_of_consistsOf (ha : apart = true → a ≠ g.initialStart) (hr : r ∈ g.rulesOf a)
    (h : r.consistsOf (g.nullable apart) = true) : (g.nullable apart).contains a = true := by
  by_cases he : [] ∈ g.rulesOf a
  · exact nullable_of_mem apart he
  · rw [nullable_eq] at h ⊢
    refine saturate_closed (x := g.ruleSet a) ?_ (List.any_eq_true.2 ⟨r, hr, h⟩)
    refine List.mem_filter.2 ⟨List.mem_filter.2 ⟨?_, ?_⟩, ?_⟩
    · exact mem_entries_iff.2 ⟨mem_variableLabels_of_mem hr, rfl⟩
    · simpa [rulesOf] using he
    · cases apart <;> simp_all

/-- What holds of the owners of empty rules, and of the owner of a rule if it holds of all
symbols of the rule, holds of the nullable variables. -/
theorem nullable_induct {P : String → Prop} (hempty : ∀ a, [] ∈ g.rulesOf a → P a)
    (hrule : ∀ K : LabelSet, (∀ b, K.contains b = true → P b) → ∀ a, ∀ r ∈ g.rulesOf a,
      (apart = true → a ≠ g.initialStart) → r.consistsOf K = true → P a)
    (h : (g.nullable apart).contains a = true) : P a := by
  rw [nullable_eq] at h
  refine saturate_induct (fun b hb => ?_) (fun K hK e he ha => ?_) h
  · obtain ⟨⟨b, rules⟩, he, rfl⟩ := List.mem_map.1 (LabelSet.contains_ofList_iff.1 hb)
    obtain ⟨he, hc⟩ := List.mem_filter.1 he
    obtain ⟨-, rfl⟩ := mem_entries_iff.1 he
    exact hempty b (List.contains_iff_mem.1 hc)
  · obtain ⟨b, rules⟩ := e
    obtain ⟨he, hapart⟩ := List.mem_filter.1 he
    obtain ⟨-, rfl⟩ := mem_entries_iff.1 (List.mem_filter.1 he).1
    obtain ⟨r, hr, hc⟩ := List.any_eq_true.1 ha
    exact hrule K hK b r hr (fun hx e => by simp [hx, e] at hapart) hc

theorem nullable_iff : (g.nullable false).contains a = true ↔ Derives g [.nonterminal a] [] := by
  constructor
  · refine nullable_induct (fun a h => derives_variable_iff.2 ⟨[], h, .nil⟩) ?_
    exact fun K hK a r hr _ hc => derives_variable_iff.2 ⟨r, hr, Rhs.derives_of_consistsOf hK hc⟩
  · have key : ∀ {r w}, Derives g r w → w = [] → r.consistsOf (g.nullable false) = true := by
      intro r w d
      induction d with
      | nil => exact fun _ => rfl
      | terminal _ _ => exact fun h => nomatch h
      | nonterminal hr _ _ ihu ihv =>
          intro h
          obtain ⟨hu, hv⟩ := List.append_eq_nil_iff.1 h
          rw [Rhs.consistsOf_cons_nonterminal, Bool.and_eq_true]
          exact ⟨nullable_of_consistsOf nofun hr (ihu hu), ihv hv⟩
    intro d
    have := key d rfl
    rw [Rhs.consistsOf_cons_nonterminal, Bool.and_eq_true] at this
    exact this.1

/-! ## The grammar without empty rules -/

@[simp]
theorem variableLabels_removeEmptyRules (g : Grammar) :
    g.removeEmptyRules.variableLabels = g.variableLabels :=
  OrderedMap.keys_mapValues ..

theorem ruleSet_removeEmptyRules (ha : a ∈ g.variableLabels) :
    g.removeEmptyRules.ruleSet a = withoutEmpty (g.nullable false) (g.ruleSet a) := by
  obtain ⟨rules, hrules⟩ := OrderedMap.mem_keys_iff.1 ha
  rw [ruleSet_of_get? hrules, ruleSet_of_get?]
  show (g.rules.mapValues _).get? a = _
  rw [OrderedMap.get?_mapValues, hrules, Option.map_some]

theorem mem_rulesOf_removeEmptyRules :
    r' ∈ g.removeEmptyRules.rulesOf a ↔
      r' ≠ [] ∧ ∃ r ∈ g.rulesOf a, Rhs.Erases (g.nullable false) r r' := by
  by_cases ha : a ∈ g.variableLabels
  · rw [rulesOf, ruleSet_removeEmptyRules ha, OrderedSet.mem_toList, mem_withoutEmpty]
    rfl
  · rw [rulesOf_of_not_mem (by rwa [variableLabels_removeEmptyRules]), rulesOf_of_not_mem ha]
    simp

theorem uses_of_removeEmptyRules (h : g.removeEmptyRules.Uses s) : g.Uses s := by
  obtain ⟨a, r', hr', hs⟩ := h
  obtain ⟨-, r, hr, e⟩ := mem_rulesOf_removeEmptyRules.1 hr'
  exact .intro hr (e.sublist.subset hs)

theorem WellFormed.removeEmptyRules (hg : g.WellFormed) : g.removeEmptyRules.WellFormed :=
  hg.of_uses rfl (variableLabels_removeEmptyRules g) rfl fun _ => uses_of_removeEmptyRules

theorem nil_not_mem_removeEmptyRules (a : String) : [] ∉ g.removeEmptyRules.rulesOf a :=
  fun h => (mem_rulesOf_removeEmptyRules.1 h).1 rfl

theorem derives_of_erases (e : Rhs.Erases (g.nullable false) r r') (d : Derives g r' w) :
    Derives g r w := by
  induction e generalizing w with
  | nil => exact d
  | @keep s _ _ _ ih =>
      cases s with
      | terminal t =>
          obtain ⟨v, rfl, dv⟩ := derives_terminal_cons_iff.1 d
          exact .terminal (ih dv)
      | nonterminal a =>
          obtain ⟨u, v, rfl, du, dv⟩ := derives_nonterminal_cons_iff.1 d
          exact derives_nonterminal_cons_iff.2 ⟨u, v, rfl, du, ih dv⟩
  | drop ha _ ih =>
      exact derives_nonterminal_cons_iff.2 ⟨[], w, rfl, nullable_iff.1 ha, ih d⟩

theorem derives_of_removeEmptyRules (d : Derives g.removeEmptyRules r w) : Derives g r w := by
  refine d.of_admissible fun a r' hr' w d => ?_
  obtain ⟨-, r, hr, e⟩ := mem_rulesOf_removeEmptyRules.1 hr'
  exact derives_variable_iff.2 ⟨r, hr, derives_of_erases e d⟩

/-- A derivation goes through without empty rules when the variables that derived
the empty word are left out. -/
theorem exists_erases_derives (d : Derives g r w) :
    ∃ r', Rhs.Erases (g.nullable false) r r' ∧ Derives g.removeEmptyRules r' w := by
  induction d with
  | nil => exact ⟨[], .nil, .nil⟩
  | terminal _ ih =>
      obtain ⟨r', e, d⟩ := ih
      exact ⟨_, .keep e, .terminal d⟩
  | @nonterminal a q rest u v hq du _ ihu ihv =>
      obtain ⟨rest', erest, drest⟩ := ihv
      by_cases hu : u = []
      · subst hu
        refine ⟨rest', .drop (nullable_iff.2 ?_) erest, drest⟩
        exact derives_variable_iff.2 ⟨q, hq, du⟩
      · obtain ⟨q', eq, dq⟩ := ihu
        have hne : q' ≠ [] := fun h => hu (derives_nil_iff.1 (h ▸ dq))
        refine ⟨.nonterminal a :: rest', .keep erest, ?_⟩
        exact .nonterminal (mem_rulesOf_removeEmptyRules.2 ⟨hne, q, hq, eq⟩) dq drest

theorem derives_removeEmptyRules_iff :
    Derives g.removeEmptyRules [.nonterminal a] w ↔ Derives g [.nonterminal a] w ∧ w ≠ [] := by
  refine ⟨fun d => ?_, fun hx => ?_⟩
  · refine ⟨derives_of_removeEmptyRules d, ?_⟩
    intro hx
    obtain rfl := hx
    exact not_derives_nil nil_not_mem_removeEmptyRules a d
  · obtain ⟨d, hw⟩ := hx
    obtain ⟨q, hq, d⟩ := derives_variable_iff.1 d
    obtain ⟨q', e, d⟩ := exists_erases_derives d
    have hne : q' ≠ [] := fun h => hw (derives_nil_iff.1 (h ▸ d))
    exact derives_variable_iff.2 ⟨q', mem_rulesOf_removeEmptyRules.2 ⟨hne, q, hq, e⟩, d⟩

theorem acceptsEmpty_removeEmptyRules_iff :
    g.removeEmptyRules.acceptsEmpty = true ↔ g.acceptsEmpty = true ∨ g.Generates [] := by
  show (g.acceptsEmpty || (g.nullable false).contains g.start) = true ↔ _
  rw [Bool.or_eq_true, nullable_iff]
  rfl

/-- The language stays, because the grammar remembers the empty word. -/
theorem accepts_removeEmptyRules_iff : g.removeEmptyRules.Accepts w ↔ g.Accepts w := by
  have hwords : g.removeEmptyRules.Generates w ↔ g.Generates w ∧ w ≠ [] :=
    derives_removeEmptyRules_iff
  unfold Accepts
  rw [acceptsEmpty_removeEmptyRules_iff, hwords]
  by_cases hw : w = []
  · subst hw
    simp only [ne_eq, not_true_eq_false, and_false, false_or, true_and]
    exact Or.comm
  · simp [hw]

end Grammar

end ContextFree
