import ContextFree.UsefulSymbols
import ContextFree.Proofs.Derivation
import ContextFree.Proofs.Saturation
import ContextFree.Proofs.WellFormed

/-!
# Taking out the useless symbols

The variables that derive a word are a least fixed point, so saturation computes
them exactly. The variables that can be reached are computed round by round, and
the bound on the rounds never decides: every round but the last finds a
registered variable that was not known.

When the variables that derive no word are taken out, no derivation of a word is
lost, because every variable in it derives a part of the word. When those that
cannot be reached are taken out, the others keep all their rules. What is left
is trim: every registered symbol is needed.
-/

namespace ContextFree

namespace Grammar

variable {g : Grammar} {a b c : String} {rhs : Rhs} {w : Word} {known : LabelSet}

/-! ## The variables that derive a word -/

theorem isSettled_iff :
    isSettled known rhs = true ↔ ∀ b, .nonterminal b ∈ rhs → known.contains b = true := by
  rw [isSettled, List.all_eq_true]
  constructor
  · exact fun h b hb => h _ hb
  · intro h s hs
    cases s with
    | terminal t => rfl
    | nonterminal b => exact h b hs

theorem terminating_iff :
    g.terminating.contains a = true ↔ ∃ w, Derives g [.nonterminal a] w := by
  constructor
  · refine saturate_induct (P := fun a => ∃ w, Derives g [.nonterminal a] w)
      (fun b hb => ?_) ?_
    · rw [Std.TreeSet.contains_emptyc] at hb
      cases hb
    · intro K hK e he ha
      obtain ⟨a, rules⟩ := e
      obtain ⟨-, rfl⟩ := mem_entries_iff.1 he
      obtain ⟨rhs, hr, hs⟩ := List.any_eq_true.1 ha
      obtain ⟨w, d⟩ := exists_derives fun b hb => hK b (isSettled_iff.1 hs b hb)
      exact ⟨w, derives_variable_iff.2 ⟨rhs, hr, d⟩⟩
  · have hclosed : ∀ {a rhs}, rhs ∈ g.rulesOf a → isSettled g.terminating rhs = true →
        g.terminating.contains a = true := fun {a rhs} hr hs =>
      saturate_closed (mem_entries_iff.2 ⟨mem_variableLabels_of_mem hr, rfl⟩)
        (List.any_eq_true.2 ⟨rhs, hr, hs⟩)
    have key : ∀ {r w}, Derives g r w → isSettled g.terminating r = true := by
      intro r w d
      induction d with
      | nil => rfl
      | terminal _ ih =>
          refine isSettled_iff.2 fun b hb => ?_
          rcases List.mem_cons.1 hb with e | hb
          · cases e
          · exact isSettled_iff.1 ih b hb
      | nonterminal hr _ _ ihu ihv =>
          refine isSettled_iff.2 fun b hb => ?_
          rcases List.mem_cons.1 hb with e | hb
          · cases e
            exact hclosed hr ihu
          · exact isSettled_iff.1 ihv b hb
    intro h
    obtain ⟨w, d⟩ := h
    exact isSettled_iff.1 (key d) a List.mem_cons_self

/-! ## The variables that can be reached -/

/-- A variable occurs in what another one becomes when rules are applied. -/
inductive Reaches (g : Grammar) (a : String) : String → Prop where
  | refl : Reaches g a a
  | step {b c : String} {rhs : Rhs} : Reaches g a b → rhs ∈ g.rulesOf b →
      .nonterminal c ∈ rhs → Reaches g a c

theorem Reaches.trans (hab : g.Reaches a b) (hbc : g.Reaches b c) : g.Reaches a c := by
  induction hbc with
  | refl => exact hab
  | step _ hr hc ih => exact ih.step hr hc

theorem Reaches.mem (hc : g.Closed) (h : g.Reaches a b) (ha : a ∈ g.variableLabels) :
    b ∈ g.variableLabels := by
  cases h with
  | refl => exact ha
  | step _ hr hb => exact hc.mem hr hb

theorem discover_cons (g : Grammar) (known : LabelSet) (a : String) (rest : List String) :
    g.discover known (a :: rest) =
      if known.contains a || !g.hasVariable a then g.discover known rest
      else ((g.discover (known.insert a) rest).1, a :: (g.discover (known.insert a) rest).2) :=
  rfl

theorem mem_discover {labels : List String} :
    b ∈ (g.discover known labels).2 ↔
      b ∈ labels ∧ b ∈ g.variableLabels ∧ known.contains b = false := by
  induction labels generalizing known with
  | nil => simp [discover]
  | cons a rest ih =>
      rw [discover_cons]
      split
      · next h =>
          rw [ih, List.mem_cons]
          by_cases e : b = a
          · subst e
            rcases Bool.or_eq_true_iff.1 h with hk | hv
            · simp [hk]
            · have hv : b ∉ g.variableLabels := by simpa using hv
              simp [hv]
          · simp [e]
      · next h =>
          simp only [Bool.or_eq_true, Bool.not_eq_true', not_or, Bool.not_eq_true,
            Bool.not_eq_false, hasVariable_iff] at h
          rw [List.mem_cons, List.mem_cons, ih]
          by_cases e : b = a
          · simp [e, h.1, h.2]
          · have hi : (known.insert a).contains b = known.contains b := by
              rw [Bool.eq_iff_iff, LabelSet.contains_insert_iff]
              simp [e]
            simp [e, hi]

theorem contains_discover {labels : List String} :
    (g.discover known labels).1.contains b = true ↔
      known.contains b = true ∨ b ∈ (g.discover known labels).2 := by
  induction labels generalizing known with
  | nil => simp [discover]
  | cons a rest ih =>
      rw [discover_cons]
      split
      · exact ih
      · rw [ih, LabelSet.contains_insert_iff, List.mem_cons, or_assoc, or_left_comm]

/-- The labels that the rules of some variables mention. -/
def mentionedBy (g : Grammar) (labels : List String) : List String :=
  labels.flatMap fun a => (g.rulesOf a).flatMap Rhs.nonterminals

theorem mem_mentionedBy {labels : List String} :
    b ∈ g.mentionedBy labels ↔ ∃ a ∈ labels, ∃ rhs ∈ g.rulesOf a, .nonterminal b ∈ rhs := by
  simp [mentionedBy]

theorem reachWithin_succ (g : Grammar) (rounds : Nat) (known : LabelSet) (latest : List String) :
    g.reachWithin (rounds + 1) known latest =
      if (g.discover known (g.mentionedBy latest)).2.isEmpty
      then (g.discover known (g.mentionedBy latest)).1
      else g.reachWithin rounds (g.discover known (g.mentionedBy latest)).1
        (g.discover known (g.mentionedBy latest)).2 :=
  rfl

/-- How many registered variables are not known. Every round but the last makes
the number smaller. -/
def unknown (g : Grammar) (known : LabelSet) : Nat :=
  g.variableLabels.countP fun a => !known.contains a

theorem unknown_lt {known' : LabelSet} (hle : ∀ b, known.contains b = true → known'.contains b = true)
    (hb : b ∈ g.variableLabels) (hk : known.contains b = false) (hk' : known'.contains b = true) :
    g.unknown known' < g.unknown known := by
  refine countP_lt_countP (fun c _ hc => ?_) hb (by rw [hk']; rfl) (by rw [hk]; rfl)
  rw [Bool.not_eq_true'] at hc ⊢
  exact Bool.eq_false_iff.2 fun h => Bool.eq_false_iff.1 hc (hle c h)

theorem reachWithin_mono {rounds : Nat} {latest : List String} (hb : known.contains b = true) :
    (g.reachWithin rounds known latest).contains b = true := by
  induction rounds generalizing known latest with
  | zero => exact hb
  | succ rounds ih =>
      have hb' : (g.discover known (g.mentionedBy latest)).1.contains b = true :=
        contains_discover.2 (Or.inl hb)
      rw [reachWithin_succ]
      split
      · exact hb'
      · exact ih hb'

/-- The known labels at the end are closed: what a rule of a known variable
mentions is known, if it is registered. In a round this holds already for all
but the latest labels. -/
theorem reachWithin_closed {rounds : Nat} {latest : List String} (hfuel : g.unknown known < rounds)
    (hold : ∀ a, known.contains a = true → a ∈ latest ∨
      ∀ rhs ∈ g.rulesOf a, ∀ b ∈ g.variableLabels, .nonterminal b ∈ rhs → known.contains b = true)
    (ha : (g.reachWithin rounds known latest).contains a = true) (hr : rhs ∈ g.rulesOf a)
    (hbv : b ∈ g.variableLabels) (hb : .nonterminal b ∈ rhs) :
    (g.reachWithin rounds known latest).contains b = true := by
  induction rounds generalizing known latest with
  | zero => omega
  | succ rounds ih =>
      have hnext : ∀ a, known.contains a = true → ∀ rhs ∈ g.rulesOf a, ∀ b ∈ g.variableLabels,
          .nonterminal b ∈ rhs →
            (g.discover known (g.mentionedBy latest)).1.contains b = true := by
        intro a ha rhs hr b hbv hb
        rw [contains_discover, mem_discover]
        rcases hold a ha with hl | hs
        · cases hk : known.contains b
          · exact Or.inr ⟨mem_mentionedBy.2 ⟨a, hl, rhs, hr, hb⟩, hbv, rfl⟩
          · exact Or.inl rfl
        · exact Or.inl (hs rhs hr b hbv hb)
      rw [reachWithin_succ] at ha ⊢
      split at ha
      · next hnone =>
          rw [if_pos hnone]
          rcases contains_discover.1 ha with ha | ha
          · exact hnext a ha rhs hr b hbv hb
          · rw [List.isEmpty_iff.1 hnone] at ha
            cases ha
      · next hsome =>
          rw [if_neg hsome]
          refine ih ?_ (fun a ha => ?_) ha
          · obtain ⟨c, hc⟩ := List.exists_mem_of_ne_nil _ (mt List.isEmpty_iff.2 hsome)
            obtain ⟨-, hcv, hck⟩ := mem_discover.1 hc
            have := unknown_lt (fun b hb => contains_discover.2 (Or.inl hb)) hcv hck
              (contains_discover.2 (Or.inr hc))
            omega
          · rcases contains_discover.1 ha with ha | ha
            · exact Or.inr (hnext a ha)
            · exact Or.inl ha

theorem reachWithin_induct {P : String → Prop}
    (hstep : ∀ a, P a → ∀ rhs ∈ g.rulesOf a, ∀ b, .nonterminal b ∈ rhs → P b) {rounds : Nat}
    {latest : List String} (hknown : ∀ b, known.contains b = true → P b)
    (hlatest : ∀ b ∈ latest, P b)
    (hb : (g.reachWithin rounds known latest).contains b = true) : P b := by
  induction rounds generalizing known latest with
  | zero => exact hknown b hb
  | succ rounds ih =>
      have hfound : ∀ c ∈ (g.discover known (g.mentionedBy latest)).2, P c := by
        intro c hc
        obtain ⟨a, ha, rhs, hr, hc⟩ := mem_mentionedBy.1 (mem_discover.1 hc).1
        exact hstep a (hlatest a ha) rhs hr c hc
      have hall : ∀ c, (g.discover known (g.mentionedBy latest)).1.contains c = true → P c :=
        fun c hc => (contains_discover.1 hc).elim (hknown c) (hfound c)
      rw [reachWithin_succ] at hb
      split at hb
      · exact hall b hb
      · exact ih hall hfound hb

theorem reachable_iff (hc : g.Closed) :
    g.reachable.contains b = true ↔ g.Reaches g.start b := by
  constructor
  · have hstart : ∀ c ∈ [g.start], g.Reaches g.start c := by
      intro c hc
      rw [List.mem_singleton.1 hc]
      exact .refl
    exact reachWithin_induct (fun a ha rhs hr b hb => ha.step hr hb)
      (fun c hc => hstart c (LabelSet.contains_ofList_iff.1 hc)) hstart
  · intro h
    induction h with
    | refl => exact reachWithin_mono (LabelSet.contains_ofList_iff.2 List.mem_cons_self)
    | step _ hr hb ih =>
        refine reachWithin_closed ?_ (fun a ha => ?_) ih hr (hc.mem hr hb) hb
        · have : g.rules.size = g.variableLabels.length := (List.length_map ..).symm
          rw [this]
          exact Nat.lt_succ_of_le List.countP_le_length
        · exact Or.inl (LabelSet.contains_ofList_iff.1 ha)

/-! ## Keeping some variables -/

theorem variableLabels_keepVariables (g : Grammar) (known : LabelSet) :
    (g.keepVariables known).variableLabels = g.variableLabels.filter known.contains := by
  unfold keepVariables
  rw [variableLabels_foldl_removeVariable]
  refine List.filter_congr fun b hb => ?_
  rw [Bool.eq_iff_iff]
  simp [hb]

theorem mem_rulesOf_keepVariables (hc : g.Closed) :
    rhs ∈ (g.keepVariables known).rulesOf a ↔
      rhs ∈ g.rulesOf a ∧ known.contains a = true ∧
        ∀ b, .nonterminal b ∈ rhs → known.contains b = true := by
  unfold keepVariables
  rw [rulesOf_foldl_removeVariable]
  refine ⟨fun h => ?_, fun hx => ?_⟩
  · split at h
    · cases h
    · next ha =>
        obtain ⟨hr, hall⟩ := List.mem_filter.1 h
        refine ⟨hr, ?_, fun b hb => ?_⟩
        · simpa [mem_variableLabels_of_mem hr] using ha
        · cases hk : known.contains b with
          | true => rfl
          | false =>
              have hm := List.all_eq_true.1 hall b
                (List.mem_filter.2 ⟨hc.mem hr hb, by rw [hk]; rfl⟩)
              rw [Rhs.mentions_iff.2 hb] at hm
              cases hm
  · obtain ⟨hr, ha, hall⟩ := hx
    rw [if_neg (by simp [ha])]
    refine List.mem_filter.2 ⟨hr, List.all_eq_true.2 fun b hb => ?_⟩
    obtain ⟨-, hb⟩ := List.mem_filter.1 hb
    simp only [Bool.not_eq_true', ← Bool.not_eq_true, Rhs.mentions_iff] at hb ⊢
    exact mt (hall b) hb

theorem keepVariables_eq (g : Grammar) (known : LabelSet) :
    g.keepVariables known = { g with rules := (g.keepVariables known).rules } := by
  unfold keepVariables
  generalize g.variableLabels.filter _ = labels
  induction labels generalizing g with
  | nil => rfl
  | cons a labels ih => exact ih (g.removeVariable a)

@[simp]
theorem keepVariables_start (g : Grammar) (known : LabelSet) :
    (g.keepVariables known).start = g.start := by
  rw [keepVariables_eq]

@[simp]
theorem keepVariables_terminals (g : Grammar) (known : LabelSet) :
    (g.keepVariables known).terminals = g.terminals := by
  rw [keepVariables_eq]

@[simp]
theorem keepVariables_acceptsEmpty (g : Grammar) (known : LabelSet) :
    (g.keepVariables known).acceptsEmpty = g.acceptsEmpty := by
  rw [keepVariables_eq]

theorem uses_of_keepVariables {s : Symbol} (hc : g.Closed) (h : (g.keepVariables known).Uses s) :
    g.Uses s := by
  obtain ⟨a, rhs, hr, hs⟩ := h
  exact .intro ((mem_rulesOf_keepVariables hc).1 hr).1 hs

theorem Closed.keepVariables (hc : g.Closed) (known : LabelSet) :
    (g.keepVariables known).Closed := by
  intro b h
  obtain ⟨a, rhs, hr, hb⟩ := h
  obtain ⟨hr, -, hall⟩ := (mem_rulesOf_keepVariables hc).1 hr
  rw [variableLabels_keepVariables]
  exact List.mem_filter.2 ⟨hc.mem hr hb, hall b hb⟩

/-- The rules that are left when the variables that derive no word are taken out are
those whose right-hand side derives one. -/
theorem mem_rulesOf_keepTerminating (hc : g.Closed) :
    rhs ∈ (g.keepVariables g.terminating).rulesOf a ↔
      rhs ∈ g.rulesOf a ∧ ∃ w, Derives g rhs w := by
  rw [mem_rulesOf_keepVariables hc]
  simp only [terminating_iff]
  refine and_congr_right fun hr => ⟨fun h => exists_derives h.2, fun h => ?_⟩
  obtain ⟨w, d⟩ := h
  exact ⟨⟨w, derives_variable_iff.2 ⟨rhs, hr, d⟩⟩, fun b hb => d.exists_of_mem hb⟩

/-- No derivation of a word is lost with the variables that derive none. -/
theorem derives_keepTerminating_iff (hc : g.Closed) :
    Derives (g.keepVariables g.terminating) rhs w ↔ Derives g rhs w := by
  have hmono : ∀ {r u}, Derives (g.keepVariables g.terminating) r u → Derives g r u :=
    fun d => d.mono fun a rhs hr => ((mem_rulesOf_keepTerminating hc).1 hr).1
  refine ⟨hmono, fun d => d.of_admissible fun a rhs hr u d => ?_⟩
  exact derives_variable_iff.2 ⟨rhs, (mem_rulesOf_keepTerminating hc).2 ⟨hr, u, hmono d⟩, d⟩

theorem derives_keepReachable_iff (hc : g.Closed)
    (hrhs : ∀ b, .nonterminal b ∈ rhs → g.reachable.contains b = true) :
    Derives (g.keepVariables g.reachable) rhs w ↔ Derives g rhs w := by
  have hstay : ∀ a, g.reachable.contains a = true → ∀ rhs ∈ g.rulesOf a, ∀ b,
      .nonterminal b ∈ rhs → g.reachable.contains b = true := by
    intro a ha rhs hr b hb
    rw [reachable_iff hc] at ha ⊢
    exact ha.step hr hb
  constructor
  · exact fun d => d.mono fun a rhs hr => ((mem_rulesOf_keepVariables hc).1 hr).1
  · exact fun d => d.mono_on (fun a ha rhs hr =>
      (mem_rulesOf_keepVariables hc).2 ⟨hr, ha, hstay a ha rhs hr⟩) hstay hrhs

/-! ## The useful part -/

/-- The grammar that is left when the useless symbols are taken out. -/
def usefulPart (g : Grammar) : Grammar :=
  let settled := g.keepVariables g.terminating
  (settled.keepVariables settled.reachable).dropUnusedTerminals

@[simp]
theorem usefulPart_start (g : Grammar) : g.usefulPart.start = g.start := by
  simp [usefulPart, dropUnusedTerminals]

theorem removeUseless_run (g : Grammar) :
    Transform.removeUseless.run g =
      if g.terminating.contains g.start then .ok () g.usefulPart
      else .error (.emptyLanguage g.start) g := by
  unfold Transform.removeUseless
  rw [EStateM.run_bind, EStateM.run_get]
  cases h : g.terminating.contains g.start
  · simp [h]
  · simp [h, usefulPart]

theorem start_mem_usefulPart (h : g.terminating.contains g.start = true) :
    g.usefulPart.start ∈ g.usefulPart.variableLabels := by
  have hstart : g.start ∈ g.variableLabels := by
    obtain ⟨w, d⟩ := terminating_iff.1 h
    obtain ⟨rhs, hr, -⟩ := derives_variable_iff.1 d
    exact mem_variableLabels_of_mem hr
  rw [usefulPart_start]
  show g.start ∈ ((g.keepVariables g.terminating).keepVariables _).variableLabels
  rw [variableLabels_keepVariables, variableLabels_keepVariables, List.mem_filter, List.mem_filter]
  refine ⟨⟨hstart, h⟩, reachWithin_mono (LabelSet.contains_ofList_iff.2 ?_)⟩
  rw [keepVariables_start]
  exact List.mem_cons_self

theorem mem_terminals_dropUnusedTerminals {t : String} :
    t ∈ g.dropUnusedTerminals.terminals ↔ t ∈ g.terminals ∧ g.Uses (.terminal t) := by
  show t ∈ g.terminals.filter _ ↔ _
  rw [OrderedSet.mem_filter, LabelSet.contains_ofList_iff, List.mem_flatMap]
  refine ⟨fun h => ?_, fun h => ?_⟩
  · obtain ⟨ht, p, hp, hu⟩ := h
    exact ⟨ht, .intro (mem_productions.1 hp) (Rhs.mem_terminals.1 hu)⟩
  · obtain ⟨ht, a, rhs, hr, hu⟩ := h
    exact ⟨ht, ⟨a, rhs⟩, mem_productions.2 hr, Rhs.mem_terminals.2 hu⟩

theorem mem_rulesOf_usefulPart (hc : g.Closed) :
    rhs ∈ g.usefulPart.rulesOf a ↔
      rhs ∈ (g.keepVariables g.terminating).rulesOf a ∧
        (g.keepVariables g.terminating).Reaches g.start a := by
  have hc' := hc.keepVariables g.terminating
  show rhs ∈ ((g.keepVariables g.terminating).keepVariables _).rulesOf a ↔ _
  rw [mem_rulesOf_keepVariables hc']
  simp only [reachable_iff hc', keepVariables_start]
  constructor
  · exact fun h => ⟨h.1, h.2.1⟩
  · exact fun h => ⟨h.1, h.2, fun b hb => h.2.step h.1 hb⟩

theorem mem_variableLabels_usefulPart (hc : g.Closed) :
    a ∈ g.usefulPart.variableLabels ↔
      (a ∈ g.variableLabels ∧ ∃ w, Derives g [.nonterminal a] w) ∧
        (g.keepVariables g.terminating).Reaches g.start a := by
  show a ∈ ((g.keepVariables g.terminating).keepVariables _).variableLabels ↔ _
  rw [variableLabels_keepVariables, variableLabels_keepVariables, List.mem_filter,
    List.mem_filter, terminating_iff, reachable_iff (hc.keepVariables _), keepVariables_start]

theorem uses_of_usefulPart {s : Symbol} (hc : g.Closed) (h : g.usefulPart.Uses s) : g.Uses s := by
  obtain ⟨a, rhs, hr, hs⟩ := h
  exact uses_of_keepVariables hc (.intro ((mem_rulesOf_usefulPart hc).1 hr).1 hs)

/-- What can be reached after the first step keeps its words in both. -/
theorem derives_usefulPart_iff (hc : g.Closed)
    (hrhs : ∀ b, .nonterminal b ∈ rhs → (g.keepVariables g.terminating).Reaches g.start b) :
    Derives g.usefulPart rhs w ↔ Derives g rhs w := by
  have hc' := hc.keepVariables g.terminating
  rw [← derives_keepTerminating_iff hc, ← derives_keepReachable_iff hc']
  · exact derives_rules_congr rfl
  · intro b hb
    rw [reachable_iff hc', keepVariables_start]
    exact hrhs b hb

theorem generates_usefulPart_iff (hc : g.Closed) : g.usefulPart.Generates w ↔ g.Generates w := by
  unfold Generates
  rw [usefulPart_start]
  refine derives_usefulPart_iff hc fun b hb => ?_
  rw [List.mem_singleton] at hb
  cases hb
  exact .refl

theorem accepts_usefulPart_iff (hc : g.Closed) : g.usefulPart.Accepts w ↔ g.Accepts w := by
  have hflag : g.usefulPart.acceptsEmpty = g.acceptsEmpty := by
    simp [usefulPart, dropUnusedTerminals]
  unfold Accepts
  rw [generates_usefulPart_iff hc, hflag]

theorem reaches_usefulPart (hc : g.Closed)
    (h : (g.keepVariables g.terminating).Reaches g.start a) : g.usefulPart.Reaches g.start a := by
  induction h with
  | refl => exact .refl
  | step hab hr hb ih => exact ih.step ((mem_rulesOf_usefulPart hc).2 ⟨hr, hab⟩) hb

/-- Every registered symbol is needed: each variable can be reached and derives a
word, and each terminal stands in a rule. -/
structure Trim (g : Grammar) : Prop where
  wellFormed : g.WellFormed
  reaches : ∀ a ∈ g.variableLabels, g.Reaches g.start a
  derives : ∀ a ∈ g.variableLabels, ∃ w, Derives g [.nonterminal a] w
  uses : ∀ t ∈ g.terminals, g.Uses (.terminal t)

theorem WellFormed.usefulPart (hg : g.WellFormed) (hs : ∃ w, g.Generates w) :
    g.usefulPart.WellFormed where
  start_mem := by
    rw [usefulPart_start, mem_variableLabels_usefulPart hg.closed]
    exact ⟨⟨hg.start_mem, hs⟩, .refl⟩
  closed := by
    intro b h
    obtain ⟨a, rhs, hr, hb⟩ := h
    obtain ⟨hr, ha⟩ := (mem_rulesOf_usefulPart hg.closed).1 hr
    obtain ⟨hr', -, hall⟩ := (mem_rulesOf_keepVariables hg.closed).1 hr
    rw [mem_variableLabels_usefulPart hg.closed]
    exact ⟨⟨hg.closed.mem hr' hb, terminating_iff.1 (hall b hb)⟩, ha.step hr hb⟩
  terminal_mem := fun t ht => mem_terminals_dropUnusedTerminals.2
    ⟨by simpa using hg.terminal_mem t (uses_of_usefulPart hg.closed ht), ht⟩

theorem trim_usefulPart (hg : g.WellFormed) (hs : ∃ w, g.Generates w) : g.usefulPart.Trim where
  wellFormed := hg.usefulPart hs
  reaches := fun a ha => by
    rw [usefulPart_start]
    exact reaches_usefulPart hg.closed ((mem_variableLabels_usefulPart hg.closed).1 ha).2
  derives := fun a ha => by
    obtain ⟨⟨-, w, d⟩, hreach⟩ := (mem_variableLabels_usefulPart hg.closed).1 ha
    refine ⟨w, (derives_usefulPart_iff hg.closed fun b hb => ?_).2 d⟩
    rw [List.mem_singleton] at hb
    cases hb
    exact hreach
  uses := fun t ht => (mem_terminals_dropUnusedTerminals.1 ht).2

end Grammar
end ContextFree
