import ContextFree.Enumeration
import ContextFree.Proofs.Height

/-!
# Enumeration finds exactly the short words

A pass adds what the rules give with the words known by then. So the table of known
words stays sound, and a pass raises the height of the derivation trees whose words
are known by one. A pass that adds nothing finds the table closed under the rules,
and then words of any height are known; stopping there loses nothing. Otherwise
the number of passes decides, and it covers the height that a word of the given
length needs.

The number of passes is no limit that enumeration could run into. `PassesEnd` makes
passes until one adds nothing, whatever number that takes, and it ends at the same
table: when all short words are known, a rule can only give them again.

The tables are hash tables, and the order in which they are gone through is nobody's
business: all statements go through membership.
-/

namespace ContextFree

variable {g : Grammar} {table table' : WordTable} {a b : String} {s : Symbol} {rhs : Rhs}
  {p : Production} {u v w : Word} {limit k n : Nat}

/-! ## Sets of words -/

theorem mem_foldl_iff {β : Type} {f : WordSet → β → WordSet} {q : β → Prop} {l : List β}
    {found : WordSet} (hf : ∀ found x, w ∈ f found x ↔ w ∈ found ∨ q x) :
    w ∈ l.foldl f found ↔ w ∈ found ∨ ∃ x ∈ l, q x := by
  induction l generalizing found with
  | nil => simp
  | cons x l ih =>
      rw [List.foldl_cons, ih, hf, or_assoc]
      simp

theorem mem_concatenate {us vs : WordSet} :
    w ∈ concatenate limit us vs ↔ w.length ≤ limit ∧ ∃ u ∈ us, ∃ v ∈ vs, w = u ++ v := by
  have hinner : ∀ (found : WordSet) (u : Word),
      w ∈ vs.fold (fun found v =>
        if (v.length : Int) ≤ limit - u.length then found.insert (u ++ v) else found) found ↔
        w ∈ found ∨ ∃ v ∈ vs.toList, (v.length : Int) ≤ limit - u.length ∧ u ++ v = w := by
    intro found u
    rw [Std.HashSet.fold_eq_foldl_toList]
    refine mem_foldl_iff fun found v => ?_
    split
    · next h => simp [h, or_comm]
    · next h => simp [h]
  unfold concatenate
  rw [Std.HashSet.fold_eq_foldl_toList, mem_foldl_iff hinner]
  simp only [Std.HashSet.not_mem_empty, false_or, Std.HashSet.mem_toList]
  refine ⟨fun hx => ?_, fun hx => ?_⟩
  · obtain ⟨u, hu, v, hv, hle, rfl⟩ := hx
    rw [List.length_append]
    exact ⟨by omega, u, hu, v, hv, rfl⟩
  · obtain ⟨hle, u, hu, v, hv, rfl⟩ := hx
    rw [List.length_append] at hle
    exact ⟨u, hu, v, hv, by omega, rfl⟩

namespace WordTable

/-- A word is put together from words that are known for the symbols of a sequence. -/
def Spells (table : WordTable) : Rhs → Word → Prop
  | [], w => w = []
  | s :: rest, w => ∃ u v, w = u ++ v ∧ u ∈ table.wordsOfSymbol s ∧ table.Spells rest v

theorem mem_wordsOfSymbol_terminal : u ∈ table.wordsOfSymbol (.terminal a) ↔ u = [a] := by
  rw [wordsOfSymbol, Std.HashSet.mem_ofList, List.contains_iff_mem, List.mem_singleton]

theorem Spells.mono (h : ∀ a w, w ∈ table.wordsOf a → w ∈ table'.wordsOf a)
    (hw : table.Spells rhs w) : table'.Spells rhs w := by
  induction rhs generalizing w with
  | nil => exact hw
  | cons s rest ih =>
      obtain ⟨u, v, rfl, hu, hv⟩ := hw
      refine ⟨u, v, rfl, ?_, ih hv⟩
      cases s with
      | terminal t => exact mem_wordsOfSymbol_terminal.2 (mem_wordsOfSymbol_terminal.1 hu)
      | nonterminal a => exact h a u hu

/-- What is dropped on the way would have become too long. -/
theorem mem_expand : w ∈ table.expand limit rhs ↔ w.length ≤ limit ∧ table.Spells rhs w := by
  have hfold : ∀ {found : WordSet}, (∀ u ∈ found, u.length ≤ limit) →
      (w ∈ rhs.foldl (fun found s => concatenate limit found (table.wordsOfSymbol s)) found ↔
        w.length ≤ limit ∧ ∃ u ∈ found, ∃ v, w = u ++ v ∧ table.Spells rhs v) := by
    induction rhs with
    | nil =>
        intro found hfound
        constructor
        · exact fun hw => ⟨hfound w hw, w, hw, [], (List.append_nil w).symm, rfl⟩
        · intro h
          obtain ⟨-, u, hu, v, rfl, rfl⟩ := h
          rwa [List.append_nil]
    | cons s rest ih =>
        intro found hfound
        rw [List.foldl_cons, ih fun u hu => (mem_concatenate.1 hu).1]
        refine and_congr_right fun hle => ?_
        refine ⟨fun h => ?_, fun h => ?_⟩
        · obtain ⟨x, hx, v, rfl, hv⟩ := h
          obtain ⟨-, u, hu, y, hy, rfl⟩ := mem_concatenate.1 hx
          exact ⟨u, hu, y ++ v, List.append_assoc .., y, v, rfl, hy, hv⟩
        · obtain ⟨u, hu, x, rfl, y, v, rfl, hy, hv⟩ := h
          rw [← List.append_assoc, List.length_append] at hle
          exact ⟨u ++ y, mem_concatenate.2 ⟨by omega, u, hu, y, hy, rfl⟩, v,
            (List.append_assoc ..).symm, hv⟩
  unfold expand
  rw [hfold]
  · simp
  · intro u hu
    rw [Std.HashSet.mem_ofList, List.contains_iff_mem, List.mem_singleton] at hu
    rw [hu]
    exact Nat.zero_le limit

/-! ## One rule -/

theorem mem_wordsOf_grow {found : List Word} :
    w ∈ (table.grow a found).wordsOf b ↔ w ∈ table.wordsOf b ∨ (b = a ∧ w ∈ found) := by
  unfold wordsOf grow
  rw [Std.HashMap.getD_alter]
  by_cases e : a = b
  · subst e
    simp [Std.HashMap.getD_eq_getD_getElem?]
  · simp [e, Ne.symm e]

theorem mem_wordsOf_growBy :
    w ∈ (table.growBy limit p).1.wordsOf b ↔
      w ∈ table.wordsOf b ∨ (b = p.lhs ∧ w ∈ table.expand limit p.rhs) := by
  unfold growBy
  dsimp only
  split
  · next h =>
      refine ⟨Or.inl, fun hw => hw.elim id ?_⟩
      intro hx
      obtain ⟨rfl, hnew⟩ := hx
      have := List.filter_eq_nil_iff.1 (List.isEmpty_iff.1 h) w (Std.HashSet.mem_toList.2 hnew)
      simpa using this
  · rw [mem_wordsOf_grow]
    by_cases hw : w ∈ table.wordsOf b
    · simp [hw]
    · simp only [hw, false_or, List.mem_filter, Std.HashSet.mem_toList]
      refine and_congr_right fun e => and_iff_left ?_
      subst e
      simpa using hw

theorem growBy_of_snd_eq_false (h : (table.growBy limit p).2 = false) :
    (table.growBy limit p).1 = table := by
  unfold growBy at h ⊢
  dsimp only at h ⊢
  split at h
  · next hf => rw [if_pos hf]
  · cases h

theorem growBy_eq_self (h : ∀ w ∈ table.expand limit p.rhs, w ∈ table.wordsOf p.lhs) :
    table.growBy limit p = (table, false) := by
  unfold growBy
  dsimp only
  refine if_pos (List.isEmpty_iff.2 (List.filter_eq_nil_iff.2 fun w hw => ?_))
  have hknown := h w (Std.HashSet.mem_toList.1 hw)
  simpa using hknown

/-! ## A pass -/

theorem growBy_mono (hw : w ∈ table.wordsOf b) : w ∈ (table.growBy limit p).1.wordsOf b :=
  mem_wordsOf_growBy.2 (Or.inl hw)

/-- What a pass does with the rules of a list, and the sign that it added something. -/
def passOver (limit : Int) (ps : List Production) (acc : WordTable × Bool) : WordTable × Bool :=
  ps.foldl (fun (table, grew) p =>
    let (table, grows) := table.growBy limit p
    (table, grew || grows)) acc

variable {ps : List Production} {acc : WordTable × Bool}

theorem passOver_cons (limit : Int) (p : Production) (ps : List Production)
    (acc : WordTable × Bool) :
    passOver limit (p :: ps) acc =
      passOver limit ps ((acc.1.growBy limit p).1, acc.2 || (acc.1.growBy limit p).2) :=
  rfl

theorem passOver_mono (hw : w ∈ acc.1.wordsOf b) : w ∈ (passOver limit ps acc).1.wordsOf b := by
  induction ps generalizing acc with
  | nil => exact hw
  | cons p ps ih =>
      rw [passOver_cons]
      exact ih (growBy_mono hw)

theorem passOver_induct {P : WordTable → Prop}
    (hstep : ∀ table, ∀ p ∈ ps, P table → P (table.growBy limit p).1) (h : P acc.1) :
    P (passOver limit ps acc).1 := by
  induction ps generalizing acc with
  | nil => exact h
  | cons p ps ih =>
      rw [passOver_cons]
      exact ih (fun table q hq => hstep table q (List.mem_cons_of_mem _ hq))
        (hstep acc.1 p List.mem_cons_self h)

theorem expand_subset_passOver (hp : p ∈ ps) (hw : w ∈ acc.1.expand limit p.rhs) :
    w ∈ (passOver limit ps acc).1.wordsOf p.lhs := by
  induction ps generalizing acc with
  | nil => cases hp
  | cons q ps ih =>
      rw [passOver_cons]
      rcases List.mem_cons.1 hp with rfl | hp
      · exact passOver_mono (mem_wordsOf_growBy.2 (Or.inr ⟨rfl, hw⟩))
      · obtain ⟨hle, hs⟩ := mem_expand.1 hw
        exact ih hp (mem_expand.2 ⟨hle, hs.mono fun a w hw => growBy_mono hw⟩)

theorem passOver_eq_self (h : ∀ p ∈ ps, ∀ w ∈ acc.1.expand limit p.rhs, w ∈ acc.1.wordsOf p.lhs) :
    passOver limit ps acc = acc := by
  induction ps with
  | nil => rfl
  | cons p ps ih =>
      rw [List.forall_mem_cons] at h
      rw [passOver_cons, growBy_eq_self h.1, Bool.or_false]
      exact ih h.2

theorem passOver_of_snd_eq_false (h : (passOver limit ps acc).2 = false) :
    acc.2 = false ∧ (passOver limit ps acc).1 = acc.1 := by
  induction ps generalizing acc with
  | nil => exact ⟨h, rfl⟩
  | cons p ps ih =>
      rw [passOver_cons] at h ⊢
      obtain ⟨hacc, heq⟩ := ih h
      obtain ⟨hold, hnew⟩ := Bool.or_eq_false_iff.1 hacc
      exact ⟨hold, heq.trans (growBy_of_snd_eq_false hnew)⟩

end WordTable

/-! ## Passes -/

namespace Grammar

open WordTable

theorem wordPass_eq (g : Grammar) (limit : Int) (table : WordTable) :
    g.wordPass limit table = passOver limit g.productions (table, false) :=
  rfl

/-- Known words are derived. -/
def SoundTable (g : Grammar) (table : WordTable) : Prop :=
  ∀ a, ∀ w ∈ table.wordsOf a, Derives g [.nonterminal a] w

/-- The short words with low derivation trees are known. -/
def KnowsUpTo (g : Grammar) (limit height : Nat) (table : WordTable) : Prop :=
  ∀ a w, w.length ≤ limit → DerivesWithin g height [.nonterminal a] w → w ∈ table.wordsOf a

theorem SoundTable.spells (ht : g.SoundTable table) (hw : table.Spells rhs w) :
    Derives g rhs w := by
  induction rhs generalizing w with
  | nil =>
      obtain rfl := hw
      exact .nil
  | cons s rest ih =>
      obtain ⟨u, v, rfl, hu, hv⟩ := hw
      cases s with
      | terminal t =>
          rw [mem_wordsOfSymbol_terminal.1 hu]
          exact .terminal (ih hv)
      | nonterminal a => exact derives_nonterminal_cons_iff.2 ⟨u, v, rfl, ht a u hu, ih hv⟩

theorem SoundTable.growBy (ht : g.SoundTable table) (hp : p ∈ g.productions) :
    g.SoundTable (table.growBy limit p).1 := by
  intro a w hw
  rcases mem_wordsOf_growBy.1 hw with hold | ⟨rfl, hnew⟩
  · exact ht a w hold
  · obtain ⟨-, hspells⟩ := mem_expand.1 hnew
    exact derives_variable_iff.2 ⟨p.rhs, mem_productions.1 hp, ht.spells hspells⟩

/-- What every rule keeps holds of the table when the passes are over. -/
theorem wordPasses_induct {P : WordTable → Prop} {passes : Nat}
    (hstep : ∀ table, ∀ p ∈ g.productions, P table → P (table.growBy limit p).1) (h : P table) :
    P (g.wordPasses limit passes table) := by
  induction passes generalizing table with
  | zero => exact h
  | succ passes ih =>
      have hpass : P (g.wordPass limit table).1 := by
        rw [wordPass_eq]
        exact passOver_induct hstep h
      rw [Grammar.wordPasses]
      dsimp only
      split
      · exact ih hpass
      · exact hpass

theorem SoundTable.wordPasses {passes : Nat} (ht : g.SoundTable table) :
    g.SoundTable (g.wordPasses limit passes table) :=
  wordPasses_induct (P := g.SoundTable) (fun _ _ hp h => h.growBy hp) ht

/-- Known words are short. -/
theorem length_le_of_wordPasses {passes : Nat}
    (ht : ∀ a, ∀ w ∈ table.wordsOf a, w.length ≤ limit) :
    ∀ a, ∀ w ∈ (g.wordPasses limit passes table).wordsOf a, w.length ≤ limit := by
  refine wordPasses_induct (P := fun table => ∀ a, ∀ w ∈ table.wordsOf a, w.length ≤ limit)
    (fun table p _ h a w hw => ?_) ht
  rcases mem_wordsOf_growBy.1 hw with hold | ⟨-, hnew⟩
  · exact h a w hold
  · have hle := (mem_expand.1 hnew).1
    omega

theorem KnowsUpTo.spells (ht : g.KnowsUpTo limit k table) (hle : w.length ≤ limit)
    (d : DerivesWithin g k rhs w) : table.Spells rhs w := by
  induction rhs generalizing w with
  | nil =>
      cases d
      rfl
  | cons s rest ih =>
      cases s with
      | terminal t =>
          cases d with
          | terminal d =>
              rw [List.length_cons] at hle
              exact ⟨[t], _, rfl, mem_wordsOfSymbol_terminal.2 rfl, ih (by omega) d⟩
      | nonterminal a =>
          obtain ⟨u, v, rfl, du, dv⟩ := derivesWithin_nonterminal_cons_iff.1 d
          rw [List.length_append] at hle
          exact ⟨u, v, rfl, ht a u (by omega) du, ih (by omega) dv⟩

theorem KnowsUpTo.wordPass (ht : g.KnowsUpTo limit k table) :
    g.KnowsUpTo limit (k + 1) (g.wordPass limit table).1 := by
  intro a w hle d
  obtain ⟨m, hm, rhs, hr, d⟩ := derivesWithin_variable_iff.1 d
  obtain rfl : k = m := by omega
  have hw : w ∈ table.expand limit rhs := mem_expand.2 ⟨hle, ht.spells hle d⟩
  rw [wordPass_eq]
  exact expand_subset_passOver (p := ⟨a, rhs⟩) (mem_productions.2 hr) hw

theorem KnowsUpTo.of_stable (ht : g.KnowsUpTo limit k table)
    (hstable : (g.wordPass limit table).2 = false) :
    (g.wordPass limit table).1 = table ∧ g.KnowsUpTo limit (k + n) table := by
  have heq : (g.wordPass limit table).1 = table := by
    rw [wordPass_eq] at hstable ⊢
    exact (passOver_of_snd_eq_false hstable).2
  refine ⟨heq, ?_⟩
  induction n with
  | zero => exact ht
  | succ n ih =>
      have := ih.wordPass
      rwa [heq] at this

theorem KnowsUpTo.wordPasses {passes : Nat} (ht : g.KnowsUpTo limit k table) :
    g.KnowsUpTo limit (k + passes) (g.wordPasses limit passes table) := by
  induction passes generalizing table k with
  | zero => exact ht
  | succ passes ih =>
      rw [Grammar.wordPasses]
      dsimp only
      split
      · have := ih ht.wordPass
        rwa [Nat.add_right_comm] at this
      · next h =>
          obtain ⟨heq, hknows⟩ := ht.of_stable (n := passes + 1) (Bool.eq_false_iff.2 h)
          rw [heq]
          exact hknows

/-! ## The passes end -/

/-- Passes are made until one adds nothing. The second table is the one they leave. -/
inductive PassesEnd (g : Grammar) (limit : Int) : WordTable → WordTable → Prop where
  | stable {table : WordTable} : (g.wordPass limit table).2 = false → PassesEnd g limit table table
  | pass {table final : WordTable} : (g.wordPass limit table).2 = true →
      PassesEnd g limit (g.wordPass limit table).1 final → PassesEnd g limit table final

/-- A number of passes is enough if one more adds nothing. -/
theorem passesEnd_wordPasses {passes : Nat}
    (h : (g.wordPass limit (g.wordPasses limit passes table)).2 = false) :
    g.PassesEnd limit table (g.wordPasses limit passes table) := by
  induction passes generalizing table with
  | zero => exact .stable h
  | succ passes ih =>
      rw [wordPasses] at h ⊢
      dsimp only at h ⊢
      split
      · next hgrew =>
          rw [if_pos hgrew] at h
          exact .pass hgrew (ih h)
      · next hgrew =>
          have hgrew := Bool.eq_false_iff.2 hgrew
          have heq : (g.wordPass limit table).1 = table := (passOver_of_snd_eq_false hgrew).2
          rw [heq]
          exact .stable hgrew

/-- The table that enumeration reads its answer off. -/
def wordTable (g : Grammar) (limit : Int) : WordTable :=
  g.wordPasses limit (g.rules.size * ((limit + 1).toNat + 1)) ∅

theorem wordsUpTo_eq (g : Grammar) (limit : Int) :
    g.wordsUpTo limit = (g.wordTable limit).wordsOf g.start :=
  rfl

theorem mem_wordTable_iff :
    w ∈ (g.wordTable limit).wordsOf a ↔ w.length ≤ limit ∧ Derives g [.nonterminal a] w := by
  have hsize : g.rules.size = g.variableLabels.length := (List.length_map ..).symm
  have hempty : ∀ {a w}, w ∉ WordTable.wordsOf (∅ : WordTable) a := by
    intro a w
    simp [WordTable.wordsOf]
  refine ⟨fun hw => ⟨?_, ?_⟩, fun h => ?_⟩
  · exact length_le_of_wordPasses (fun a w hw => absurd hw hempty) a w hw
  · have hsound : g.SoundTable (∅ : WordTable) := fun a w hw => absurd hw hempty
    exact hsound.wordPasses a w hw
  · obtain ⟨hle, d⟩ := h
    have hknows : g.KnowsUpTo limit 0 (∅ : WordTable) := by
      intro a u _ d
      obtain ⟨m, hm, -⟩ := derivesWithin_variable_iff.1 d
      omega
    have hpos : 0 < g.variableLabels.length := by
      obtain ⟨rhs, hr, -⟩ := derives_variable_iff.1 d
      exact List.length_pos_of_mem (mem_variableLabels_of_mem hr)
    -- the height that the word needs is covered, whichever word it is
    have hheight : g.variableLabels.length * (w.length + 1) ≤
        g.variableLabels.length * (limit + 1) := Nat.mul_le_mul_left _ (by omega)
    refine hknows.wordPasses a w hle ((Derives.derivesWithin d).mono ?_)
    rw [hsize, Int.toNat_natCast_add_one, Nat.mul_succ _ (limit + 1)]
    omega

theorem passesEnd_wordTable (g : Grammar) (limit : Nat) :
    g.PassesEnd limit ∅ (g.wordTable limit) := by
  refine passesEnd_wordPasses ?_
  show (g.wordPass limit (g.wordTable limit)).2 = false
  rw [wordPass_eq, passOver_eq_self]
  intro p hp w hw
  have hsound : g.SoundTable (g.wordTable limit) := fun a w hw => (mem_wordTable_iff.1 hw).2
  obtain ⟨hle, hspells⟩ := mem_expand.1 hw
  exact mem_wordTable_iff.2 ⟨by omega,
    derives_variable_iff.2 ⟨p.rhs, mem_productions.1 hp, hsound.spells hspells⟩⟩

theorem mem_wordsUpTo_iff : w ∈ g.wordsUpTo limit ↔ w.length ≤ limit ∧ g.Generates w := by
  rw [wordsUpTo_eq, mem_wordTable_iff]
  rfl

theorem derivesWord_iff : g.derivesWord w = true ↔ g.Generates w := by
  rw [derivesWord, Std.HashSet.contains_iff_mem, mem_wordsUpTo_iff]
  exact and_iff_right (Nat.le_refl _)

/-- Enumeration ends after some pass that adds nothing. It has found exactly the words of
bounded length that the start symbol derives, and so it decides which words are derived. -/
theorem enumeration_exact (g : Grammar) :
    (∀ limit : Nat, ∃ table, g.PassesEnd limit ∅ table ∧
      g.wordsUpTo limit = table.wordsOf g.start ∧
      ∀ w, w ∈ g.wordsUpTo limit ↔ w.length ≤ limit ∧ g.Generates w) ∧
    ∀ w, g.derivesWord w = true ↔ g.Generates w :=
  ⟨fun limit => ⟨g.wordTable limit, passesEnd_wordTable g limit, wordsUpTo_eq g limit,
    fun _ => mem_wordsUpTo_iff⟩, fun _ => derivesWord_iff⟩

end Grammar

end ContextFree
