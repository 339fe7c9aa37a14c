import ContextFree.Proofs.Recognition
import ContextFree.Proofs.Sampling

/-!
# Which trees can be sampled

The choices that a sample makes, in the order in which it makes them, are those of a tree:
every node comes before the nodes below it, and these come from the left. So a sample can be
made to follow any derivation tree, and one that the limit on depth admits is followed to
its end if the stack has room for all of it.

What comes out is the text of the tree's word, with one exception. The sign for a sample
that was cut off is a text, and a part of the tree may read like it. Such a part counts as
cut off, and the sample is passed over although nothing was cut. This and a stack without
room are the only ways in which a tree within the limit is missed.

The induction is on trees side by side, because the parts of a sample are put together from
the left. Every part leaves the choices of the parts to its right untouched, so what is said
of a part also says how many choices it made.
-/

namespace ContextFree

/-- Trees side by side. A node has the label of a variable, the number of the rule that is
chosen for it, and the trees below it. -/
inductive Forest where
  | nil
  | leaf (label : String) (rest : Forest)
  | node (label : String) (rule : Nat) (below rest : Forest)

namespace Forest

/-- The symbols at the roots. -/
def roots : Forest → Rhs
  | nil => []
  | leaf a rest => .terminal a :: rest.roots
  | node a _ _ rest => .nonterminal a :: rest.roots

/-- The labels of the leaves. -/
def word : Forest → Word
  | nil => []
  | leaf a rest => a :: rest.word
  | node _ _ below rest => below.word ++ rest.word

/-- The number of nodes, leaves included, on the longest way down. -/
def height : Forest → Nat
  | nil => 0
  | leaf _ rest => max 1 rest.height
  | node _ _ below rest => max (below.height + 1) rest.height

/-- The rules that are chosen, in the order in which a sample chooses them. -/
def picks : Forest → List Nat
  | nil => []
  | leaf _ rest => rest.picks
  | node _ rule below rest => rule :: (below.picks ++ rest.picks)

/-- Every node has the trees below it by the rule that is chosen for it. -/
def IsFrom (g : Grammar) : Forest → Prop
  | nil => True
  | leaf _ rest => rest.IsFrom g
  | node a rule below rest =>
    (g.rulesOf a)[rule]? = some below.roots ∧ below.IsFrom g ∧ rest.IsFrom g

/-- Whether some tree, or a tree inside one, reads like the sign that a sample was cut off. -/
def hasMark (separator : String) : Forest → Bool
  | nil => false
  | leaf a rest => a == truncationMark || rest.hasMark separator
  | node _ _ below rest =>
    below.hasMark separator || separator.intercalate below.word == truncationMark ||
      rest.hasMark separator

/-- Whether the stack has room for every node and leaf, when the roots are at a depth. -/
def fits (room : Room) (depth : Nat) : Forest → Bool
  | nil => true
  | leaf a rest => room depth (.terminal a) && rest.fits room depth
  | node a _ below rest =>
    room depth (.nonterminal a) && below.fits room (depth + 1) && rest.fits room depth

end Forest

variable {g : Grammar} {f : Forest} {rhs : Rhs} {w : Word} {n : Nat}

/-- The trees of a grammar are the derivations in it. -/
theorem derivesWithin_iff_exists_forest :
    DerivesWithin g n rhs w ↔
      ∃ f : Forest, f.IsFrom g ∧ f.height ≤ n ∧ f.roots = rhs ∧ f.word = w := by
  constructor
  · intro d
    induction d with
    | nil => exact ⟨.nil, trivial, Nat.zero_le _, rfl, rfl⟩
    | @terminal n a rest w _ ih =>
        obtain ⟨f, hf, hheight, rfl, rfl⟩ := ih
        exact ⟨.leaf a f, hf, Nat.max_le.2 ⟨Nat.succ_le_succ (Nat.zero_le n), hheight⟩, rfl, rfl⟩
    | @nonterminal n label rhs rest u v hr _ _ ih ih' =>
        obtain ⟨below, hbelow, hheight, rfl, rfl⟩ := ih
        obtain ⟨f, hf, hheight', rfl, rfl⟩ := ih'
        obtain ⟨rule, hrule⟩ := List.mem_iff_getElem?.1 hr
        exact ⟨.node label rule below f, ⟨hrule, hbelow, hf⟩,
          Nat.max_le.2 ⟨Nat.succ_le_succ hheight, hheight'⟩, rfl, rfl⟩
  · intro h
    obtain ⟨f, hf, hheight, rfl, rfl⟩ := h
    induction f generalizing n with
    | nil => exact .nil
    | leaf a rest ih =>
        obtain ⟨hone, hrest⟩ := Nat.max_le.1 hheight
        obtain ⟨n, rfl⟩ := Nat.exists_eq_add_of_le' hone
        exact .terminal (ih hf hrest)
    | node a rule below rest ih ih' =>
        obtain ⟨hbelow, hrest⟩ := Nat.max_le.1 hheight
        obtain ⟨n, rfl⟩ := Nat.exists_eq_add_of_le' (Nat.le_of_add_left_le hbelow)
        exact .nonterminal (List.mem_of_getElem? hf.1)
          (ih hf.2.1 (Nat.le_of_succ_le_succ hbelow)) (ih' hf.2.2 hrest)

/-- A part that reads like the sign is a part of the word, or is inside one. -/
theorem Forest.exists_infix_of_hasMark {separator : String} (h : f.hasMark separator = true) :
    ∃ u, u <:+: f.word ∧ separator.intercalate u = truncationMark := by
  induction f with
  | nil => cases h
  | leaf a rest ih =>
      rcases Bool.or_eq_true_iff.1 h with ha | hrest
      · refine ⟨[a], (List.prefix_append [a] rest.word).isInfix, ?_⟩
        rw [String.intercalate_singleton, beq_iff_eq.1 ha]
      · obtain ⟨u, hu, hmark⟩ := ih hrest
        exact ⟨u, hu.trans (List.suffix_cons a rest.word).isInfix, hmark⟩
  | node a rule below rest ih ih' =>
      have hbelow : below.word <:+: (below.node a rule rest).word :=
        (List.prefix_append below.word rest.word).isInfix
      rcases Bool.or_eq_true_iff.1 h with h | hrest
      · rcases Bool.or_eq_true_iff.1 h with h | htext
        · obtain ⟨u, hu, hmark⟩ := ih h
          exact ⟨u, hu.trans hbelow, hmark⟩
        · exact ⟨below.word, hbelow, beq_iff_eq.1 htext⟩
      · obtain ⟨u, hu, hmark⟩ := ih' hrest
        exact ⟨u, hu.trans (List.suffix_append below.word rest.word).isInfix, hmark⟩

/-- A tree needs no room below its height. -/
theorem Forest.fits_of_height {room : Room} {depth : Nat} (hheight : f.height ≤ n)
    (h : ∀ d, depth ≤ d → d < depth + n → ∀ s, room d s = true) : f.fits room depth = true := by
  induction f generalizing depth n with
  | nil => rfl
  | leaf a rest ih =>
      obtain ⟨hone, hrest⟩ := Nat.max_le.1 hheight
      exact Bool.and_eq_true_iff.2 ⟨h depth (Nat.le_refl _) (by omega) _, ih hrest h⟩
  | node a rule below rest ih ih' =>
      obtain ⟨hup, hrest⟩ := Nat.max_le.1 hheight
      obtain ⟨n, rfl⟩ := Nat.exists_eq_add_of_le' (Nat.le_of_add_left_le hup)
      have hbelow : below.fits room (depth + 1) = true :=
        ih (Nat.le_of_succ_le_succ hup) fun d hle hlt => h d (by omega) (by omega)
      exact Bool.and_eq_true_iff.2 ⟨Bool.and_eq_true_iff.2
        ⟨h depth (Nat.le_refl _) (by omega) _, hbelow⟩, ih' hrest h⟩

/-! ## Choices that follow a tree -/

/-- From a given place on, the choices are the given ones. -/
def Choices.Follows (choices : Choices) (k : Nat) (picks : List Nat) : Prop :=
  ∀ i pick, picks[i]? = some pick → choices (k + i) = pick

namespace Choices

variable {choices : Choices} {k pick : Nat} {picks picks' : List Nat}

theorem follows_cons :
    choices.Follows k (pick :: picks) ↔ choices k = pick ∧ choices.Follows (k + 1) picks := by
  constructor
  · intro h
    refine ⟨h 0 pick rfl, fun i p hp => ?_⟩
    rw [Nat.add_right_comm]
    exact h (i + 1) p hp
  · rintro ⟨hpick, h⟩ i p hp
    cases i with
    | zero => exact hpick.trans (Option.some.inj hp)
    | succ i =>
        have hi := h i p hp
        rwa [Nat.add_right_comm] at hi

theorem follows_append :
    choices.Follows k (picks ++ picks') ↔
      choices.Follows k picks ∧ choices.Follows (k + picks.length) picks' := by
  induction picks generalizing k with
  | nil => exact ⟨fun h => ⟨(fun _ _ hp => nomatch hp), h⟩, fun h => h.2⟩
  | cons p picks ih =>
      rw [List.cons_append, follows_cons, follows_cons, ih, and_assoc, List.length_cons,
        Nat.add_right_comm, Nat.add_assoc k]

theorem exists_follows (k : Nat) (picks : List Nat) :
    ∃ choices : Choices, choices.Follows k picks := by
  refine ⟨fun j => picks[j - k]?.getD 0, fun i pick hpick => ?_⟩
  show picks[k + i - k]?.getD 0 = pick
  rw [Nat.add_sub_cancel_left, hpick, Option.getD_some]

end Choices

/-! ## Following a tree -/

namespace Sampler

variable {sample : Symbol → OptionT Sampler String} {s : Symbol} {text : String} {j k : Nat}

theorem run_takeRoom_of_room {room : Room} {depth : Nat} (h : room depth s = true) :
    (takeRoom room depth s).run.run k = (some (), k) := by
  rw [takeRoom, if_pos h]
  rfl

theorem run_takeRoom_of_full {room : Room} {depth : Nat} (h : room depth s = false) :
    (takeRoom room depth s).run.run k = (none, k) := by
  rw [takeRoom, if_neg (Bool.eq_false_iff.1 h)]
  rfl

/-- What makes no choice of its own changes the result only. -/
theorem run_bind_of_pure {α β : Type} {y : OptionT Sampler α} {next : α → OptionT Sampler β}
    {φ : α → β} (h : ∀ a, next a = pure (φ a)) :
    (y >>= next).run.run k = ((y.run.run k).1.map φ, (y.run.run k).2) := by
  rcases hrun : y.run.run k with ⟨outcome, j⟩
  cases outcome with
  | none => exact run_bind_of_none hrun
  | some a =>
      rw [run_bind_of_some hrun, h]
      rfl

theorem run_parts_cons (h : (sample s).run.run k = (some text, j)) :
    (parts sample (s :: rhs)).run.run k =
      if text = truncationMark then (some none, j)
      else
        (((parts sample rhs).run.run j).1.map (Option.map fun others =>
          if text.isEmpty then others else text :: others),
        ((parts sample rhs).run.run j).2) := by
  rw [parts, run_bind_of_some h]
  split
  · rfl
  · refine run_bind_of_pure fun r => ?_
    cases r <;> rfl

/-- A part that did not come to its end leaves no parts. -/
theorem join_run_parts_of_unfinished (h : finished? ((sample s).run.run k).1 = none) :
    ((parts sample (s :: rhs)).run.run k).1.join = none := by
  rcases hrun : (sample s).run.run k with ⟨outcome, j⟩
  cases outcome with
  | none =>
      rw [parts, run_bind_of_none hrun]
      rfl
  | some text =>
      rw [run_parts_cons hrun]
      split
      · rfl
      · next hmark =>
          rw [hrun, finished?_eq_some_iff.2 ⟨rfl, hmark⟩] at h
          cases h

/-- After a part that came to its end, there are no parts if the others leave none. -/
theorem join_run_parts_of_rest (h : (sample s).run.run k = (some text, j))
    (hrest : ((parts sample rhs).run.run j).1.join = none) :
    ((parts sample (s :: rhs)).run.run k).1.join = none := by
  rw [run_parts_cons h]
  split
  · rfl
  · rw [Option.join_map_eq_map_join, hrest, Option.map_none]

/-- A sample is its only part, if it came to its end. -/
theorem finished?_eq_map_join (sample : Symbol → OptionT Sampler String) (s : Symbol) (k : Nat)
    (separator : String) :
    finished? ((sample s).run.run k).1 =
      ((parts sample [s]).run.run k).1.join.map separator.intercalate := by
  cases h : finished? ((sample s).run.run k).1 with
  | none => rw [join_run_parts_of_unfinished h, Option.map_none]
  | some text =>
      obtain ⟨houtcome, hmark⟩ := finished?_eq_some_iff.1 h
      rw [run_parts_cons (Prod.ext houtcome rfl), if_neg hmark]
      show some text = some (separator.intercalate (if text.isEmpty then [] else [text]))
      split
      · next hempty => rw [String.isEmpty_iff.1 hempty, String.intercalate_nil]
      · rw [String.intercalate_singleton]

end Sampler

namespace Grammar

variable {a : String} {s : Symbol} {choices : Choices} {separator : String} {room : Room}
  {depth height k rule : Nat}

theorem run_expand_terminal (h : room depth (.terminal a) = true) :
    (g.expand room choices separator depth (height + 1) (.terminal a)).run.run k = (some a, k) := by
  rw [expand, Sampler.run_bind_of_some (Sampler.run_takeRoom_of_room h)]
  rfl

theorem run_expand_variable (h : room depth (.nonterminal a) = true)
    (hr : (g.rulesOf a)[rule]? = some rhs) (hk : choices k = rule) :
    (g.expand room choices separator depth (height + 1) (.nonterminal a)).run.run k =
      (((Sampler.parts (g.expand room choices separator (depth + 1) height) rhs).run.run
          (k + 1)).1.map (·.elim truncationMark separator.intercalate),
        ((Sampler.parts (g.expand room choices separator (depth + 1) height) rhs).run.run
          (k + 1)).2) := by
  have hlt : rule < (g.rulesOf a).length := (List.getElem?_eq_some_iff.1 hr).1
  have hchoose : (OptionT.lift (Sampler.choose choices (g.rulesOf a))).run.run k =
      (some rhs, k + 1) := by
    show (some ((g.rulesOf a)[choices k % (g.rulesOf a).length]?.getD default), k + 1) = _
    rw [hk, Nat.mod_eq_of_lt hlt, hr, Option.getD_some]
  rw [expand, Sampler.run_bind_of_some (Sampler.run_takeRoom_of_room h)]
  split
  · next hnone =>
      rw [hnone] at hlt
      cases hlt
  · rw [Sampler.run_bind_of_some hchoose]
    refine Sampler.run_bind_of_pure fun r => ?_
    cases r <;> rfl

/-- The texts are those of words that are not empty and together make the given word. -/
def SplitTexts (separator : String) (w : Word) (texts : List String) : Prop :=
  ∃ ws : List Word, texts = ws.map separator.intercalate ∧ ws.flatten = w ∧ ∀ v ∈ ws, v ≠ []

theorem SplitTexts.intercalate_eq {texts : List String} (h : SplitTexts separator w texts) :
    separator.intercalate texts = separator.intercalate w := by
  obtain ⟨ws, rfl, rfl, hne⟩ := h
  exact intercalate_flatten hne

/-- An empty part is left out of the texts, and the word has nothing of it either. -/
theorem SplitTexts.cons {u : Word} {texts : List String} (hu : ∀ a ∈ u, a ≠ "")
    (h : SplitTexts separator w texts) :
    SplitTexts separator (u ++ w)
      (if (separator.intercalate u).isEmpty then texts else separator.intercalate u :: texts) := by
  obtain ⟨ws, rfl, rfl, hne⟩ := h
  split
  · next hempty =>
      obtain rfl : u = [] := eq_nil_of_intercalate hu (String.isEmpty_iff.1 hempty)
      exact ⟨ws, rfl, rfl, hne⟩
  · next hempty =>
      exact ⟨u :: ws, rfl, rfl, List.forall_mem_cons.2 ⟨fun h => hempty (h ▸ rfl), hne⟩⟩

/-- A root whose text is that of a word comes in front of the parts that follow. -/
theorem exists_run_parts_cons {sample : Symbol → OptionT Sampler String} {u : Word} {j l : Nat}
    (hroot : (sample s).run.run k = (some (separator.intercalate u), j))
    (hmark : separator.intercalate u ≠ truncationMark) (hu : ∀ a ∈ u, a ≠ "")
    (hrest : ∃ texts, (Sampler.parts sample rhs).run.run j = (some (some texts), l) ∧
      SplitTexts separator w texts) :
    ∃ texts, (Sampler.parts sample (s :: rhs)).run.run k = (some (some texts), l) ∧
      SplitTexts separator (u ++ w) texts := by
  obtain ⟨texts, hrun, hsplit⟩ := hrest
  refine ⟨_, ?_, hsplit.cons hu⟩
  rw [Sampler.run_parts_cons hroot, if_neg hmark, hrun]
  rfl

/-- A node gives the text of the word below it. -/
theorem run_expand_node {below : Forest} {j : Nat} (hroom : room depth (.nonterminal a) = true)
    (hrule : (g.rulesOf a)[rule]? = some below.roots) (hpick : choices k = rule)
    (hbelow : ∃ texts, (Sampler.parts (g.expand room choices separator (depth + 1) height)
      below.roots).run.run (k + 1) = (some (some texts), j) ∧
        SplitTexts separator below.word texts) :
    (g.expand room choices separator depth (height + 1) (.nonterminal a)).run.run k =
      (some (separator.intercalate below.word), j) := by
  obtain ⟨texts, hrun, hsplit⟩ := hbelow
  rw [run_expand_variable hroom hrule hpick, hrun]
  show (some (separator.intercalate texts), j) = _
  rw [hsplit.intercalate_eq]

/-- With room for them and without a part that reads like the sign, the trees are followed to
their end. -/
theorem run_parts_of_follows (hf : f.IsFrom g) (hheight : f.height ≤ height)
    (hlabels : ∀ a ∈ f.word, a ≠ "") (hc : choices.Follows k f.picks)
    (hm : f.hasMark separator = false) (hroom : f.fits room depth = true) :
    ∃ texts, (Sampler.parts (g.expand room choices separator depth height) f.roots).run.run k =
      (some (some texts), k + f.picks.length) ∧ SplitTexts separator f.word texts := by
  induction f generalizing depth height k with
  | nil => exact ⟨[], rfl, [], rfl, rfl, fun _ hv => nomatch hv⟩
  | leaf a rest ih =>
      obtain ⟨hone, hrest⟩ := Nat.max_le.1 hheight
      obtain ⟨height, rfl⟩ := Nat.exists_eq_add_of_le' hone
      obtain ⟨ha, hm⟩ := Bool.or_eq_false_iff.1 hm
      obtain ⟨hhere, hroom⟩ := Bool.and_eq_true_iff.1 hroom
      obtain ⟨hla, hlrest⟩ := List.forall_mem_cons.1 hlabels
      have hword : separator.intercalate [a] = a := String.intercalate_singleton
      have hleaf : (g.expand room choices separator depth (height + 1) (.terminal a)).run.run k =
          (some (separator.intercalate [a]), k) := by
        rw [hword, run_expand_terminal hhere]
      refine exists_run_parts_cons hleaf ?_ (List.forall_mem_singleton.2 hla)
        (ih hf hrest hlrest hc hm hroom)
      rw [hword]
      exact beq_eq_false_iff_ne.1 ha
  | node a rule below rest ih ih' =>
      obtain ⟨hup, hrest⟩ := Nat.max_le.1 hheight
      obtain ⟨height, rfl⟩ := Nat.exists_eq_add_of_le' (Nat.le_of_add_left_le hup)
      obtain ⟨hmbelow, hmrest⟩ := Bool.or_eq_false_iff.1 hm
      obtain ⟨hmbelow, htext⟩ := Bool.or_eq_false_iff.1 hmbelow
      obtain ⟨hroom, hroomrest⟩ := Bool.and_eq_true_iff.1 hroom
      obtain ⟨hhere, hroombelow⟩ := Bool.and_eq_true_iff.1 hroom
      obtain ⟨hlbelow, hlrest⟩ := List.forall_mem_append.1 hlabels
      obtain ⟨hpick, hc⟩ := Choices.follows_cons.1 hc
      obtain ⟨hcbelow, hcrest⟩ := Choices.follows_append.1 hc
      have hbelow := ih hf.2.1 (Nat.le_of_succ_le_succ hup) hlbelow hcbelow hmbelow hroombelow
      have hrest := ih' hf.2.2 hrest hlrest hcrest hmrest hroomrest
      have hlen : k + (below.node a rule rest).picks.length =
          k + 1 + below.picks.length + rest.picks.length := by
        rw [Forest.picks, List.length_cons, List.length_append]
        omega
      rw [hlen]
      exact exists_run_parts_cons (run_expand_node hhere hf.1 hpick hbelow)
        (beq_eq_false_iff_ne.1 htext) hlbelow hrest

theorem finished?_run_expand_of_full (h : room depth s = false) :
    Sampler.finished? ((g.expand room choices separator depth height s).run.run k).1 = none := by
  have hfull := Sampler.run_takeRoom_of_full (k := k) h
  have hnone : (g.expand room choices separator depth height s).run.run k = (none, k) := by
    cases height with
    | zero => rw [expand, Sampler.run_bind_of_none hfull]
    | succ height => cases s <;> rw [expand, Sampler.run_bind_of_none hfull]
  rw [hnone]
  rfl

theorem finished?_run_expand_of_join (h : room depth (.nonterminal a) = true)
    (hr : (g.rulesOf a)[rule]? = some rhs) (hk : choices k = rule)
    (hbelow : ((Sampler.parts (g.expand room choices separator (depth + 1) height) rhs).run.run
      (k + 1)).1.join = none) :
    Sampler.finished? ((g.expand room choices separator depth (height + 1)
      (.nonterminal a)).run.run k).1 = none := by
  rw [run_expand_variable h hr hk]
  rcases Option.join_eq_none_iff.1 hbelow with hnone | hcut
  · rw [hnone]
    rfl
  · rw [hcut]
    rfl

theorem finished?_run_of_mark {x : OptionT Sampler String} {text : String} {j : Nat}
    (h : x.run.run k = (some text, j)) (hmark : text = truncationMark) :
    Sampler.finished? (x.run.run k).1 = none := by
  rw [h, hmark]
  rfl

/-- A part that reads like the sign counts as cut off, and one without room breaks off. Either
way there are no parts. -/
theorem run_parts_of_obstructed (hf : f.IsFrom g) (hheight : f.height ≤ height)
    (hlabels : ∀ a ∈ f.word, a ≠ "") (hc : choices.Follows k f.picks)
    (h : f.hasMark separator = true ∨ f.fits room depth = false) :
    ((Sampler.parts (g.expand room choices separator depth height) f.roots).run.run k).1.join =
      none := by
  induction f generalizing depth height k with
  | nil => rcases h with h | h <;> cases h
  | leaf a rest ih =>
      obtain ⟨hone, hrest⟩ := Nat.max_le.1 hheight
      obtain ⟨height, rfl⟩ := Nat.exists_eq_add_of_le' hone
      rw [Forest.roots]
      cases hhere : room depth (.terminal a) with
      | false => exact Sampler.join_run_parts_of_unfinished (finished?_run_expand_of_full hhere)
      | true =>
          have hleaf : (g.expand room choices separator depth (height + 1)
              (.terminal a)).run.run k = _ := run_expand_terminal hhere
          by_cases ha : a = truncationMark
          · exact Sampler.join_run_parts_of_unfinished (finished?_run_of_mark hleaf ha)
          · refine Sampler.join_run_parts_of_rest hleaf
              (ih hf hrest (List.forall_mem_cons.1 hlabels).2 hc ?_)
            rwa [Forest.hasMark, beq_eq_false_iff_ne.2 ha, Bool.false_or, Forest.fits, hhere,
              Bool.true_and] at h
  | node a rule below rest ih ih' =>
      obtain ⟨hup, hrest⟩ := Nat.max_le.1 hheight
      obtain ⟨height, rfl⟩ := Nat.exists_eq_add_of_le' (Nat.le_of_add_left_le hup)
      obtain ⟨hlbelow, hlrest⟩ := List.forall_mem_append.1 hlabels
      obtain ⟨hpick, hc⟩ := Choices.follows_cons.1 hc
      obtain ⟨hcbelow, hcrest⟩ := Choices.follows_append.1 hc
      have hle := Nat.le_of_succ_le_succ hup
      rw [Forest.roots]
      -- what is in the way is looked for in the order in which the sample meets it: at the node,
      -- below it, in its text, to its right
      cases hhere : room depth (.nonterminal a) with
      | false => exact Sampler.join_run_parts_of_unfinished (finished?_run_expand_of_full hhere)
      | true =>
          by_cases hbelow : below.hasMark separator = true ∨ below.fits room (depth + 1) = false
          · exact Sampler.join_run_parts_of_unfinished (finished?_run_expand_of_join hhere hf.1
              hpick (ih hf.2.1 hle hlbelow hcbelow hbelow))
          · rw [not_or, Bool.not_eq_true, Bool.not_eq_false] at hbelow
            obtain ⟨hm, hfits⟩ := hbelow
            have hnode := run_expand_node hhere hf.1 hpick
              (run_parts_of_follows hf.2.1 hle hlbelow hcbelow hm hfits)
            by_cases htext : separator.intercalate below.word = truncationMark
            · exact Sampler.join_run_parts_of_unfinished (finished?_run_of_mark hnode htext)
            · refine Sampler.join_run_parts_of_rest hnode (ih' hf.2.2 hrest hlrest hcrest ?_)
              rwa [Forest.hasMark, hm, beq_eq_false_iff_ne.2 htext, Bool.false_or, Bool.false_or,
                Forest.fits, hhere, hfits, Bool.true_and, Bool.true_and] at h

/-- A sample that follows a tree gives the text of the tree's word, unless some part reads like
the sign or has no room: then it does not come to its end. -/
theorem finished?_run_expand (hroots : f.roots = [s]) (hf : f.IsFrom g)
    (hheight : f.height ≤ height) (hlabels : ∀ a ∈ f.word, a ≠ "")
    (hc : choices.Follows k f.picks) :
    Sampler.finished? ((g.expand room choices separator depth height s).run.run k).1 =
      if f.hasMark separator = true ∨ f.fits room depth = false then none
      else some (separator.intercalate f.word) := by
  rw [Sampler.finished?_eq_map_join _ s k separator, ← hroots]
  split
  · next h => rw [run_parts_of_obstructed hf hheight hlabels hc h, Option.map_none]
  · next h =>
      rw [not_or, Bool.not_eq_true, Bool.not_eq_false] at h
      obtain ⟨texts, hrun, hsplit⟩ := run_parts_of_follows hf hheight hlabels hc h.1 h.2
      rw [hrun]
      exact congrArg some hsplit.intercalate_eq

/-- The leaves of a tree are labels of terminals, and none of these is empty. -/
theorem IsRead.label_ne_empty (hg : g.IsRead) (hroots : f.roots = [.nonterminal a])
    (hf : f.IsFrom g) : ∀ t ∈ f.word, t ≠ "" := by
  intro t ht
  have d : DerivesWithin g f.height f.roots f.word :=
    derivesWithin_iff_exists_forest.2 ⟨f, hf, Nat.le_refl _, rfl, rfl⟩
  have huses : g.Uses (.terminal t) := by
    refine (d.derives.mem_or_uses ht).resolve_left fun hmem => ?_
    rw [hroots] at hmem
    cases List.mem_singleton.1 hmem
  exact hg.sampleable.terminal_ne_empty t (hg.sampleable.registers _ huses)

/-! ## Samples of the start symbol -/

theorem always_mem_sampleRepeatedly {text : String} {wanted : Int} {attempts : Nat}
    {found : OrderedSet String} (h : text ∈ found) :
    (g.sampleRepeatedly room choices separator height wanted attempts found).Always
      (text ∈ ·) := by
  induction attempts generalizing found with
  | zero => exact Sampler.always_pure h
  | succ attempts ih =>
      unfold sampleRepeatedly
      split
      · exact Sampler.always_pure h
      · refine Sampler.Always.bind (P := fun _ => True) (fun _ => trivial) fun outcome _ => ih ?_
        cases Sampler.finished? outcome with
        | none => exact h
        | some other => exact OrderedSet.mem_insert.2 (Or.inl h)

/-- The text that is found first is among the samples. -/
theorem mem_sampleRepeatedly_of_first {text : String} {wanted : Int} {attempts : Nat}
    (hwanted : 0 < wanted) (hattempts : 0 < attempts)
    (h : Sampler.finished? ((g.expand room choices separator 0 height
      (.nonterminal g.start)).run.run k).1 = some text) :
    text ∈ ((g.sampleRepeatedly room choices separator height wanted attempts .empty).run k).1 := by
  obtain ⟨attempts, rfl⟩ := Nat.exists_eq_add_of_le' hattempts
  have hempty : ¬ wanted ≤ (OrderedSet.empty : OrderedSet String).size := Int.not_le.2 hwanted
  rw [sampleRepeatedly, if_neg hempty, Sampler.run_bind, h]
  exact always_mem_sampleRepeatedly (OrderedSet.mem_insert.2 (Or.inr rfl)) _

/-- A first sample that does not come to its end is passed over. -/
theorem sampleRepeatedly_one_of_unfinished {wanted : Int} (hwanted : 0 < wanted)
    (h : Sampler.finished? ((g.expand room choices separator 0 height
      (.nonterminal g.start)).run.run k).1 = none) :
    ((g.sampleRepeatedly room choices separator height wanted 1 .empty).run k).1 = .empty := by
  have hempty : ¬ wanted ≤ (OrderedSet.empty : OrderedSet String).size := Int.not_le.2 hwanted
  rw [sampleRepeatedly, if_neg hempty, Sampler.run_bind, h]
  rfl

/-- The sign for a sample that was cut off is no sample. -/
theorem truncationMark_not_mem_samples {maxDepth wanted attempts : Int} :
    truncationMark ∉ ((g.samples choices separator maxDepth wanted attempts room).run k).1 := by
  have halways : (g.samples choices separator maxDepth wanted attempts room).Always fun found =>
      ∀ text ∈ found, text ≠ truncationMark := by
    unfold samples
    split
    · exact always_sampleRepeatedly (fun _ _ _ h => h) fun _ h => nomatch h
    · exact Sampler.always_pure fun _ h => nomatch h
  exact fun h => halways k _ h rfl

/-- For every tree from the start symbol whose nodes and leaves are not below the limit on
depth there are choices that follow it. Under all of them the first sample is the text of
the tree's word, unless some part reads like the sign for a sample that was cut off or finds
no room on the stack: then, and only then, it is passed over. So every word with a tree within
the limit can be sampled if there is room for trees of that height and no part of the word
reads like the sign. -/
theorem samples_reach (hg : g.IsRead) (separator : String) (room : Room)
    (maxDepth wanted attempts : Int) (hwanted : 0 < wanted) (hattempts : 0 < attempts) (k : Nat) :
    (∀ f : Forest, f.roots = [.nonterminal g.start] → f.IsFrom g → f.height ≤ maxDepth + 1 →
      (∃ choices : Choices, choices.Follows k f.picks) ∧
      ∀ choices : Choices, choices.Follows k f.picks →
        (f.hasMark separator = false → f.fits room 0 = true → separator.intercalate f.word ∈
          ((g.samples choices separator maxDepth wanted attempts room).run k).1) ∧
        (f.hasMark separator = true ∨ f.fits room 0 = false →
          ((g.samples choices separator maxDepth wanted 1 room).run k).1 = .empty)) ∧
    ∀ n w, DerivesWithin g n [.nonterminal g.start] w → n ≤ maxDepth + 1 →
      (∀ depth < n, ∀ s, room depth s = true) →
      (∀ u, u <:+: w → separator.intercalate u ≠ truncationMark) →
      ∃ choices, separator.intercalate w ∈
        ((g.samples choices separator maxDepth wanted attempts room).run k).1 := by
  have hsamples : ∀ choices attempts, g.samples choices separator maxDepth wanted attempts room =
      g.sampleRepeatedly room choices separator (heightBelow maxDepth 0) wanted attempts.toNat
        .empty :=
    fun _ _ => if_pos (hasVariable_iff.2 hg.exists_loading.2)
  have htree : ∀ f : Forest, f.roots = [.nonterminal g.start] → f.IsFrom g →
      f.height ≤ maxDepth + 1 → ∀ choices : Choices, choices.Follows k f.picks →
        (f.hasMark separator = false → f.fits room 0 = true → separator.intercalate f.word ∈
          ((g.samples choices separator maxDepth wanted attempts room).run k).1) ∧
        (f.hasMark separator = true ∨ f.fits room 0 = false →
          ((g.samples choices separator maxDepth wanted 1 room).run k).1 = .empty) := by
    intro f hroots hf hheight choices hc
    have hle : f.height ≤ heightBelow maxDepth 0 := by
      unfold heightBelow
      omega
    have hfirst : Sampler.finished? ((g.expand room choices separator 0 (heightBelow maxDepth 0)
        (.nonterminal g.start)).run.run k).1 = _ :=
      finished?_run_expand hroots hf hle (hg.label_ne_empty hroots hf) hc
    rw [hsamples, hsamples]
    refine ⟨fun hm hfits => ?_, fun hobstructed => ?_⟩
    · rw [hm, hfits, if_neg (by decide)] at hfirst
      exact mem_sampleRepeatedly_of_first hwanted (Int.lt_toNat.2 hattempts) hfirst
    · rw [if_pos hobstructed] at hfirst
      exact sampleRepeatedly_one_of_unfinished hwanted hfirst
  refine ⟨fun f hroots hf hheight =>
    ⟨Choices.exists_follows k f.picks, htree f hroots hf hheight⟩, fun n w d hn hroom hclear => ?_⟩
  obtain ⟨f, hf, hheight, hroots, rfl⟩ := derivesWithin_iff_exists_forest.1 d
  obtain ⟨choices, hc⟩ := Choices.exists_follows k f.picks
  have hfits : f.fits room 0 = true :=
    Forest.fits_of_height hheight fun d _ hd => hroom d (Nat.zero_add n ▸ hd)
  refine ⟨choices, (htree f hroots hf (by omega) choices hc).1 ?_ hfits⟩
  refine Bool.eq_false_iff.2 fun hm => ?_
  obtain ⟨u, hu, hmark⟩ := f.exists_infix_of_hasMark hm
  exact hclear u hu hmark

/-- A tree of pairs of letters, one inside the other, to the left of other trees. -/
def matchedTree : Nat → Forest → Forest
  | 0, rest => .node "S" 1 .nil rest
  | pairs + 1, rest => .node "S" 0 (.leaf "a" (matchedTree pairs (.leaf "b" .nil))) rest

/-- With room for two levels there is a sample of one pair of letters and none of two pairs,
although the limit on depth admits both. -/
theorem samples_reach_matchedLetters :
    let room : Room := fun depth _ => depth < 2
    matchedLetters.IsRead ∧
      (∃ choices : Choices, choices.Follows 0 [0, 1] ∧
        "ab" ∈ ((matchedLetters.samples choices "" 5000 1 1 room).run 0).1) ∧
      ∃ choices : Choices, choices.Follows 0 [0, 0, 1] ∧
        ((matchedLetters.samples choices "" 5000 1 1 room).run 0).1 = .empty := by
  intro room
  have hone : (matchedTree 1 .nil).IsFrom matchedLetters := ⟨rfl, ⟨rfl, trivial, trivial⟩, trivial⟩
  have htwo : (matchedTree 2 .nil).IsFrom matchedLetters := ⟨rfl, hone, trivial⟩
  have hreach := (samples_reach isRead_matchedLetters "" room 5000 1 1 (by decide) (by decide) 0).1
  obtain ⟨⟨choices, hc⟩, hsamples⟩ := hreach _ rfl hone (by decide)
  obtain ⟨⟨choices', hc'⟩, hsamples'⟩ := hreach _ rfl htwo (by decide)
  exact ⟨isRead_matchedLetters, ⟨choices, hc, (hsamples choices hc).1 (by decide) (by decide)⟩,
    choices', hc', (hsamples' choices' hc').2 (by decide)⟩

/-- A word that reads like the sign for a sample that was cut off is never sampled. -/
theorem samples_miss_mark :
    ∃ g, Grammar.ofText .compact false none "S -> [...]" = .ok g ∧
      DerivesWithin g (heightBelow 15 0) [.nonterminal g.start] ["[", ".", ".", ".", "]"] ∧
      ∀ choices wanted attempts room k, "".intercalate ["[", ".", ".", ".", "]"] ∉
        ((g.samples choices "" 15 wanted attempts room).run k).1 := by
  obtain ⟨g, hg⟩ : ∃ g, Grammar.ofText .compact false none "S -> [...]" = .ok g := ⟨_, rfl⟩
  let f : Forest := .node "S" 0
    (.leaf "[" (.leaf "." (.leaf "." (.leaf "." (.leaf "]" .nil))))) .nil
  refine ⟨g, hg, ?_, fun choices wanted attempts room k => truncationMark_not_mem_samples⟩
  cases hg
  exact derivesWithin_iff_exists_forest.2 ⟨f, ⟨rfl, trivial, trivial⟩, by decide, rfl, rfl⟩

end Grammar

end ContextFree
