import ContextFree.Sampling
import ContextFree.Proofs.Labels
import ContextFree.Proofs.UsefulSymbols

/-!
# What samples are

A sample is put together from the left by whatever choices come, and a part that is cut
off spoils it. So a statement about samples holds for every number of choices made before;
`Sampler.Always` says so, and it goes through the programs step by step. A sample may also
find no room and break off; `Sampler.Gives` is the same for programs that may fail. How much
room there is makes no difference to what is said here, as a failure gives no sample.

Two things are lost on the way from a derivation to its text. The empty parts are left out,
so that no separator stands beside nothing; and a variable without rules gives the empty
text, although it derives no word, not even the empty one. The first does no harm, because
in a grammar that was read no label is empty, and only the empty word has the empty text.
The second does: a sample is a word of the grammar in which such variables have an empty
rule. If every variable that can be reached has a rule, it is a word of the grammar itself.
-/

namespace ContextFree

/-! ## Samplers -/

namespace Sampler

variable {α β : Type}

/-- Whichever choices come, and however many were made before, the result is as stated. -/
def Always (x : Sampler α) (P : α → Prop) : Prop := ∀ k, P (x.run k).1

/-- Whichever choices come, and however many were made before, the result is as stated unless
the program fails. -/
def Gives (x : OptionT Sampler α) (P : α → Prop) : Prop :=
  Always x.run fun outcome => ∀ a, outcome = some a → P a

variable {x : Sampler α} {f : α → Sampler β} {y : OptionT Sampler α} {next : α → OptionT Sampler β}
  {P : α → Prop} {Q : β → Prop} {a : α} {j k : Nat}

theorem always_pure (h : P a) : Always (pure a) P := fun _ => h

theorem Always.bind (hx : x.Always P) (hf : ∀ a, P a → (f a).Always Q) : (x >>= f).Always Q :=
  fun k => hf _ (hx k) (x.run k).2

theorem always_choose [Inhabited α] (choices : Choices) {options : List α} (h : options ≠ []) :
    (choose choices options).Always (· ∈ options) := by
  intro k
  have hlt : choices k % options.length < options.length :=
    Nat.mod_lt _ (List.length_pos_iff.2 h)
  show options[choices k % options.length]?.getD default ∈ options
  rw [List.getElem?_eq_getElem hlt]
  exact List.getElem_mem hlt

theorem run_bind : (x >>= f).run k = (f (x.run k).1).run (x.run k).2 := rfl

theorem run_bind_of_some (h : y.run.run k = (some a, j)) :
    (y >>= next).run.run k = (next a).run.run j := by
  rw [OptionT.run_bind, Option.elimM, run_bind, h]
  rfl

theorem run_bind_of_none (h : y.run.run k = (none, j)) : (y >>= next).run.run k = (none, j) := by
  rw [OptionT.run_bind, Option.elimM, run_bind, h]
  rfl

theorem gives_pure (h : P a) : Gives (pure a) P := by
  intro k b hb
  rwa [← Option.some.inj hb]

theorem Gives.bind (hy : Gives y P) (hnext : ∀ a, P a → Gives (next a) Q) :
    Gives (y >>= next) Q := by
  intro k b hb
  have hfirst : ∀ a, (y.run.run k).1 = some a → P a := hy k
  rcases hrun : y.run.run k with ⟨outcome, j⟩
  cases outcome with
  | none =>
      rw [run_bind_of_none hrun] at hb
      cases hb
  | some a =>
      rw [run_bind_of_some hrun] at hb
      rw [hrun] at hfirst
      exact hnext a (hfirst a rfl) j b hb

theorem gives_lift (h : x.Always P) : Gives (OptionT.lift x) P := by
  intro k b hb
  rw [← Option.some.inj hb]
  exact h k

theorem takeRoom_congr {room room' : Room} {depth : Nat} {s : Symbol}
    (h : room depth s = room' depth s) : takeRoom room depth s = takeRoom room' depth s := by
  rw [takeRoom, takeRoom, h]

/-- If there is no room, nothing is given; so one may go on as if there were. -/
theorem gives_takeRoom {room : Room} {depth : Nat} {s : Symbol} (h : Gives y P) :
    Gives (takeRoom room depth s >>= fun _ => y) P :=
  Gives.bind (P := fun _ => True) (fun _ _ _ => trivial) fun _ _ => h

theorem finished?_eq_some_iff {outcome : Option String} {text : String} :
    finished? outcome = some text ↔ outcome = some text ∧ text ≠ truncationMark := by
  rw [finished?, Option.filter_eq_some_iff, decide_eq_true_iff]

end Sampler

/-! ## Texts of words -/

section texts

variable {separator : String} {w : Word} {ws : List Word}

theorem eq_nil_of_intercalate (hw : ∀ a ∈ w, a ≠ "") (h : separator.intercalate w = "") :
    w = [] := by
  cases w with
  | nil => rfl
  | cons a w =>
      rw [List.forall_mem_cons] at hw
      cases w with
      | nil => exact absurd (String.intercalate_singleton.symm.trans h) hw.1
      | cons b w =>
          rw [String.intercalate_cons_cons, String.append_eq_empty_iff,
            String.append_eq_empty_iff] at h
          exact absurd h.1.1 hw.1

/-- The texts of words that are not empty join to the text of the words together. -/
theorem intercalate_flatten (hws : ∀ w ∈ ws, w ≠ []) :
    separator.intercalate (ws.map separator.intercalate) = separator.intercalate ws.flatten := by
  induction ws with
  | nil => rfl
  | cons w ws ih =>
      rw [List.forall_mem_cons] at hws
      cases ws with
      | nil => rw [List.map_singleton, String.intercalate_singleton, List.flatten_singleton]
      | cons v ws =>
          have hne : (v :: ws).flatten ≠ [] :=
            fun h => hws.2 v List.mem_cons_self (List.flatten_eq_nil_iff.1 h v List.mem_cons_self)
          have hcons : (w :: v :: ws).flatten = w ++ (v :: ws).flatten := List.flatten_cons
          rw [List.map_cons, String.intercalate_cons_of_ne_nil (by simp), ih hws.2, hcons,
            String.intercalate_append_of_ne_nil hws.1 hne]

end texts

/-! ## Samples of a symbol -/

namespace Grammar

variable {g : Grammar} {a : String} {s : Symbol} {rhs : Rhs} {w : Word} {choices : Choices}
  {separator : String} {room : Room} {depth height : Nat}

/-- The grammar with an empty rule for every variable that has no rule. -/
def completed (g : Grammar) : Grammar :=
  { g with rules := g.rules.mapValues fun _ rules =>
      if rules.toList.isEmpty then .singleton [] else rules }

theorem rulesOf_completed (ha : a ∈ g.variableLabels) :
    g.completed.rulesOf a = if g.rulesOf a = [] then [[]] else g.rulesOf a := by
  obtain ⟨rules, hrules⟩ := OrderedMap.mem_keys_iff.1 ha
  have hcompleted : g.completed.ruleSet a =
      if rules.toList.isEmpty then .singleton [] else rules := by
    refine ruleSet_of_get? ?_
    show (g.rules.mapValues _).get? a = _
    rw [OrderedMap.get?_mapValues, hrules]
    rfl
  rw [rulesOf, rulesOf, hcompleted, ruleSet_of_get? hrules]
  cases hempty : rules.toList with
  | nil => simp [OrderedSet.singleton]
  | cons r rest => simp [hempty]

theorem mem_rulesOf_completed (hr : rhs ∈ g.rulesOf a) : rhs ∈ g.completed.rulesOf a := by
  rw [rulesOf_completed (mem_variableLabels_of_mem hr), if_neg (List.ne_nil_of_mem hr)]
  exact hr

/-- The words of the completed grammar are words of the grammar, if nothing that can be
reached was completed. -/
theorem generates_of_completed (hrules : ∀ a, g.Reaches g.start a → g.rulesOf a ≠ [])
    (hw : g.completed.Generates w) : g.Generates w := by
  have hsame : ∀ a, g.Reaches g.start a → ∀ rhs ∈ g.completed.rulesOf a, rhs ∈ g.rulesOf a := by
    intro a ha rhs hr
    obtain ⟨r, hmem⟩ := List.exists_mem_of_ne_nil _ (hrules a ha)
    rwa [rulesOf_completed (mem_variableLabels_of_mem hmem), if_neg (hrules a ha)] at hr
  refine Derives.mono_on hw hsame (fun a ha rhs hr b hb => ha.step (hsame a ha rhs hr) hb) ?_
  intro b hb
  obtain rfl : b = g.start := by injection List.mem_singleton.1 hb
  exact .refl

/-- The text is that of a word without empty labels which the completed grammar derives. -/
def Spells (g : Grammar) (separator : String) (rhs : Rhs) (text : String) : Prop :=
  ∃ w, text = separator.intercalate w ∧ Derives g.completed rhs w ∧ ∀ a ∈ w, a ≠ ""

/-- The texts are those of nonempty words that together are derived from the sequence. -/
def SpellsInParts (g : Grammar) (separator : String) (rhs : Rhs) (texts : List String) : Prop :=
  ∃ ws : List Word, texts = ws.map separator.intercalate ∧ (∀ w ∈ ws, w ≠ []) ∧
    Derives g.completed rhs ws.flatten ∧ ∀ a ∈ ws.flatten, a ≠ ""

theorem SpellsInParts.spells {texts : List String} (h : g.SpellsInParts separator rhs texts) :
    g.Spells separator rhs (separator.intercalate texts) := by
  obtain ⟨ws, rfl, hne, d, hlabels⟩ := h
  exact ⟨ws.flatten, intercalate_flatten hne, d, hlabels⟩

theorem SpellsInParts.cons {text : String} {texts : List String}
    (hs : g.Spells separator [s] text) (hrhs : g.SpellsInParts separator rhs texts) :
    g.SpellsInParts separator (s :: rhs) (if text.isEmpty then texts else text :: texts) := by
  obtain ⟨w, rfl, dw, hw⟩ := hs
  obtain ⟨ws, rfl, hne, dws, hws⟩ := hrhs
  have d : Derives g.completed (s :: rhs) (w ++ ws.flatten) := dw.append dws
  split
  · next hempty =>
      obtain rfl : w = [] := eq_nil_of_intercalate hw (String.isEmpty_iff.1 hempty)
      exact ⟨ws, rfl, hne, d, hws⟩
  · next hempty =>
      refine ⟨w :: ws, rfl, List.forall_mem_cons.2 ⟨?_, hne⟩, d, ?_⟩
      · intro h
        exact hempty (h ▸ rfl)
      · intro a ha
        exact (List.mem_append.1 ha).elim (hw a) (hws a)

/-- What sampling relies on: the symbols of rules are registered, and no terminal has the
empty label. -/
structure Sampleable (g : Grammar) : Prop where
  registers : ∀ s, g.Uses s → g.Registers s
  terminal_ne_empty : ∀ t ∈ g.terminals, t ≠ ""

theorem gives_parts {sample : Symbol → OptionT Sampler String}
    (h : ∀ s ∈ rhs, Sampler.Gives (sample s) fun text =>
      text ≠ truncationMark → g.Spells separator [s] text) :
    Sampler.Gives (Sampler.parts sample rhs) fun r =>
      ∀ texts, r = some texts → g.SpellsInParts separator rhs texts := by
  induction rhs with
  | nil =>
      refine Sampler.gives_pure fun texts htexts => ?_
      have hnil : texts = [] := (Option.some.inj htexts).symm
      subst hnil
      exact ⟨[], rfl, (fun _ hw => nomatch hw), .nil, fun _ ha => nomatch ha⟩
  | cons s rhs ih =>
      rw [List.forall_mem_cons] at h
      unfold Sampler.parts
      refine h.1.bind fun text htext => ?_
      split
      · exact Sampler.gives_pure fun _ h => nomatch h
      · next hmark =>
          refine (ih h.2).bind fun r hr => ?_
          cases r with
          | none => exact Sampler.gives_pure fun _ h => nomatch h
          | some others =>
              refine Sampler.gives_pure fun texts htexts => ?_
              rw [← Option.some.inj htexts]
              exact (hr others rfl).cons (htext hmark)

/-- A sample that was not cut off is the text of a word of the completed grammar. -/
theorem gives_expand (hg : g.Sampleable) (hs : g.Registers s) :
    Sampler.Gives (g.expand room choices separator depth height s) fun text =>
      text ≠ truncationMark → g.Spells separator [s] text := by
  induction height generalizing depth s with
  | zero => exact Sampler.gives_takeRoom (Sampler.gives_pure fun h => absurd rfl h)
  | succ height ih =>
      cases s with
      | terminal t =>
          refine Sampler.gives_takeRoom (Sampler.gives_pure fun _ => ⟨[t],
            String.intercalate_singleton.symm, .terminal .nil, fun a ha => ?_⟩)
          rw [List.mem_singleton.1 ha]
          exact hg.terminal_ne_empty t hs
      | nonterminal a =>
          have hrules := rulesOf_completed (g := g) hs
          refine Sampler.gives_takeRoom ?_
          split
          · next hnone =>
              rw [hnone, if_pos rfl] at hrules
              refine Sampler.gives_pure fun _ => ⟨[], rfl, ?_, fun _ h => nomatch h⟩
              exact derives_variable_iff.2 ⟨[], hrules ▸ List.mem_cons_self, .nil⟩
          · next hsome =>
              refine (Sampler.gives_lift (Sampler.always_choose choices hsome)).bind
                fun rhs hr => ?_
              have hparts : Sampler.Gives
                  (Sampler.parts (g.expand room choices separator (depth + 1) height) rhs) fun r =>
                    ∀ texts, r = some texts → g.SpellsInParts separator rhs texts :=
                gives_parts fun s hs => ih (hg.registers s (.intro hr hs))
              refine hparts.bind fun r htexts => ?_
              cases r with
              | none => exact Sampler.gives_pure fun h => absurd rfl h
              | some texts =>
                  refine Sampler.gives_pure fun _ => ?_
                  obtain ⟨w, hw, d, hlabels⟩ := (htexts texts rfl).spells
                  exact ⟨w, hw, derives_variable_iff.2 ⟨rhs, mem_rulesOf_completed hr, d⟩, hlabels⟩

/-! ## Repeated sampling -/

theorem always_sampleRepeatedly {P : String → Prop} {wanted : Int} {attempts : Nat}
    {found : OrderedSet String}
    (hsample : Sampler.Gives (g.expand room choices separator 0 height (.nonterminal g.start))
      fun text => text ≠ truncationMark → P text) (hfound : ∀ text ∈ found, P text) :
    (g.sampleRepeatedly room choices separator height wanted attempts found).Always fun found =>
      ∀ text ∈ found, P text := by
  induction attempts generalizing found with
  | zero => exact Sampler.always_pure hfound
  | succ attempts ih =>
      unfold sampleRepeatedly
      split
      · exact Sampler.always_pure hfound
      · refine Sampler.Always.bind hsample fun outcome hgives => ih ?_
        cases hfinished : Sampler.finished? outcome with
        | none => exact hfound
        | some text =>
            obtain ⟨houtcome, hmark⟩ := Sampler.finished?_eq_some_iff.1 hfinished
            intro other hother
            rcases OrderedSet.mem_insert.1 hother with hother | rfl
            · exact hfound other hother
            · exact hgives _ houtcome hmark

/-- Only room down to the first depth that is not allowed matters. -/
theorem expand_congr_room {room' : Room}
    (h : ∀ d, depth ≤ d → d ≤ depth + height → ∀ s, room d s = room' d s) (s : Symbol) :
    g.expand room choices separator depth height s =
      g.expand room' choices separator depth height s := by
  induction height generalizing depth s with
  | zero => rw [expand, expand, Sampler.takeRoom_congr (h depth (Nat.le_refl _) (Nat.le_refl _) s)]
  | succ height ih =>
      have hhere : ∀ s, Sampler.takeRoom room depth s = Sampler.takeRoom room' depth s :=
        fun s => Sampler.takeRoom_congr (h depth (Nat.le_refl _) (Nat.le_add_right ..) s)
      have hbelow : g.expand room choices separator (depth + 1) height =
          g.expand room' choices separator (depth + 1) height :=
        funext (ih fun d hle hup => h d (by omega) (by omega))
      cases s with
      | terminal a => rw [expand, expand, hhere]
      | nonterminal a => rw [expand, expand, hhere, hbelow]

/-- Where the stack has room for every expansion down to the first depth that is not allowed,
more of it makes no difference. -/
theorem samples_congr_room {maxDepth wanted attempts : Int} {room' : Room}
    (h : ∀ d ≤ heightBelow maxDepth 0, ∀ s, room d s = room' d s) :
    g.samples choices separator maxDepth wanted attempts room =
      g.samples choices separator maxDepth wanted attempts room' := by
  have hrepeatedly : ∀ attempts found,
      g.sampleRepeatedly room choices separator (heightBelow maxDepth 0) wanted attempts found =
        g.sampleRepeatedly room' choices separator (heightBelow maxDepth 0) wanted attempts
          found := by
    intro attempts
    induction attempts with
    | zero => exact fun _ => rfl
    | succ attempts ih =>
        intro found
        have hexpand : g.expand room choices separator 0 (heightBelow maxDepth 0) = _ :=
          funext (expand_congr_room fun d _ hd => h d (Nat.le_trans hd (Nat.zero_add _).le))
        rw [sampleRepeatedly, sampleRepeatedly, hexpand]
        simp only [ih]
  unfold samples
  rw [hrepeatedly]

theorem IsRead.sampleable (hg : g.IsRead) : g.Sampleable where
  registers := hg.exists_loading.1.registers
  terminal_ne_empty := fun t ht => (hg.conventional.fitsLabel (.terminal t) ht).2.1

/-- Every sample is the text of a word that the start symbol derives when variables without
rules derive the empty word. If all variables that can be reached have rules, it derives the
word as it is. -/
theorem samples_spell_words (hg : g.IsRead) (choices : Choices) (separator : String)
    (maxDepth wanted attempts : Int) (room : Room) (k : Nat) (text : String)
    (h : text ∈ ((g.samples choices separator maxDepth wanted attempts room).run k).1) :
    ∃ w, text = separator.intercalate w ∧ g.completed.Generates w ∧
      ((∀ a, g.Reaches g.start a → g.rulesOf a ≠ []) → g.Generates w) := by
  have hsamples : (g.samples choices separator maxDepth wanted attempts room).Always fun found =>
      ∀ text ∈ found, g.Spells separator [.nonterminal g.start] text := by
    unfold samples
    split
    · next hstart =>
        exact always_sampleRepeatedly (gives_expand hg.sampleable (hasVariable_iff.1 hstart))
          fun _ h => nomatch h
    · exact Sampler.always_pure fun _ h => nomatch h
  obtain ⟨w, rfl, hw, -⟩ := hsamples k text h
  exact ⟨w, rfl, hw, fun hrules => generates_of_completed hrules hw⟩

theorem samples_spell_words_matchedLetters :
    "ab" ∈ ((matchedLetters.samples (Choices.cycle #[0, 1]) "" 15 10 2).run 0).1 ∧
      ∃ w, "ab" = "".intercalate w ∧ matchedLetters.completed.Generates w ∧
        matchedLetters.Generates w := by
  have h : "ab" ∈ ((matchedLetters.samples (Choices.cycle #[0, 1]) "" 15 10 2).run 0).1 := by
    decide
  have hrules : ∀ a, matchedLetters.Reaches matchedLetters.start a →
      matchedLetters.rulesOf a ≠ [] := by
    intro a ha
    have hmem := ha.mem isRead_matchedLetters.wellFormed.closed
      isRead_matchedLetters.wellFormed.start_mem
    obtain rfl : a = "S" := List.mem_singleton.1 hmem
    decide
  obtain ⟨w, hw, hcompleted, hgenerates⟩ :=
    samples_spell_words isRead_matchedLetters _ _ _ _ _ _ _ _ h
  exact ⟨h, w, hw, hcompleted, hgenerates hrules⟩

/-- A variable that is mentioned and never defined gives a sample, although nothing is
derived. -/
theorem samples_of_undefined_variable :
    ∃ g, Grammar.ofText .compact false none "S -> aB" = .ok g ∧
      "a" ∈ ((g.samples (Choices.cycle #[]) "" 15 10 50).run 0).1 ∧
      ¬ ∃ w, "a" = "".intercalate w ∧ g.Generates w := by
  obtain ⟨g, hg⟩ : ∃ g, Grammar.ofText .compact false none "S -> aB" = .ok g := ⟨_, rfl⟩
  refine ⟨g, hg, ?_, ?_⟩
  · cases hg
    decide +kernel
  · intro h
    obtain ⟨w, -, hw⟩ := h
    cases hg
    obtain ⟨rhs, hr, d⟩ := derives_variable_iff.1 hw
    obtain rfl : rhs = [.terminal "a", .nonterminal "B"] := List.mem_singleton.1 hr
    obtain ⟨u, d⟩ := d.exists_of_mem (a := "B") (by simp)
    obtain ⟨rhs, hr, -⟩ := derives_variable_iff.1 d
    cases hr

end Grammar

end ContextFree
