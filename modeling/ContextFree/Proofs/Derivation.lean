import ContextFree.Derivation
import ContextFree.Proofs.Rules

/-!
# The algebra of derivations

`Derives` splits the word where the sequence of symbols splits, and this file
turns that into equivalences: one for each shape of a sequence, and one for
concatenation. With them no later proof inverts a derivation by hand.

A change of a grammar is compared with the original through its rules alone. If
every rule of one grammar is admissible in another, that is, if the other
grammar derives from the owner whatever it derives from the right-hand side,
then every derivation carries over. This is `Derives.of_admissible`; a variant
gives the rule the derivations below it in the original grammar, bounded in
height, for changes whose rules are only admissible after the derivation is
rearranged. And if two grammars have the same rules for the variables that can
occur, they derive the same words, which is `derives_congr`.
-/

namespace ContextFree

variable {g h : Grammar} {a : String} {rhs r s : Rhs} {u v w : Word} {m n : Nat}

/-! ## Shapes of a sequence -/

@[simp]
theorem derives_nil_iff : Derives g [] w ↔ w = [] := by
  constructor
  · intro d; cases d; rfl
  · rintro rfl; exact .nil

theorem derives_terminal_cons_iff :
    Derives g (.terminal a :: rhs) w ↔ ∃ v, w = a :: v ∧ Derives g rhs v := by
  refine ⟨fun d => ?_, fun h => ?_⟩
  · cases d with
    | terminal d => exact ⟨_, rfl, d⟩
  · obtain ⟨v, rfl, d⟩ := h
    exact .terminal d

theorem derives_variable_iff :
    Derives g [.nonterminal a] w ↔ ∃ rhs ∈ g.rulesOf a, Derives g rhs w := by
  refine ⟨fun d => ?_, fun h => ?_⟩
  · cases d with
    | nonterminal hr d rest =>
        rw [derives_nil_iff.1 rest, List.append_nil]
        exact ⟨_, hr, d⟩
  · obtain ⟨rhs, hr, d⟩ := h
    have := Derives.nonterminal hr d .nil
    rwa [List.append_nil] at this

theorem derives_nonterminal_cons_iff :
    Derives g (.nonterminal a :: rhs) w ↔
      ∃ u v, w = u ++ v ∧ Derives g [.nonterminal a] u ∧ Derives g rhs v := by
  refine ⟨fun d => ?_, fun h => ?_⟩
  · cases d with
    | nonterminal hr d rest => exact ⟨_, _, rfl, derives_variable_iff.2 ⟨_, hr, d⟩, rest⟩
  · obtain ⟨u, v, rfl, d, rest⟩ := h
    obtain ⟨r, hr, d⟩ := derives_variable_iff.1 d
    exact .nonterminal hr d rest

theorem Derives.append (d : Derives g r u) (e : Derives g s v) :
    Derives g (r ++ s) (u ++ v) := by
  induction d with
  | nil => exact e
  | terminal _ ih => exact .terminal ih
  | nonterminal hr d _ _ ih =>
      rw [List.append_assoc]
      exact .nonterminal hr d ih

theorem derives_append_iff :
    Derives g (r ++ s) w ↔ ∃ u v, w = u ++ v ∧ Derives g r u ∧ Derives g s v := by
  refine ⟨fun d => ?_, fun h => ?_⟩
  · induction r generalizing w with
    | nil => exact ⟨[], w, rfl, .nil, d⟩
    | cons x r ih =>
        cases d with
        | terminal d =>
            obtain ⟨u, v, rfl, du, dv⟩ := ih d
            exact ⟨_ :: u, v, rfl, .terminal du, dv⟩
        | nonterminal hr d rest =>
            obtain ⟨u, v, rfl, du, dv⟩ := ih rest
            exact ⟨_ ++ u, v, (List.append_assoc ..).symm, .nonterminal hr d du, dv⟩
  · obtain ⟨u, v, rfl, du, dv⟩ := h
    exact du.append dv

theorem derives_context_congr (hrs : ∀ w, Derives g r w ↔ Derives g s w) (pre post : Rhs) :
    Derives g (pre ++ r ++ post) w ↔ Derives g (pre ++ s ++ post) w := by
  simp only [derives_append_iff, hrs]

theorem Derives.exists_of_mem (d : Derives g rhs w) (ha : .nonterminal a ∈ rhs) :
    ∃ u, Derives g [.nonterminal a] u := by
  induction d with
  | nil => cases ha
  | terminal _ ih =>
      rcases List.mem_cons.1 ha with e | ha
      · cases e
      · exact ih ha
  | nonterminal hr d _ _ ih =>
      rcases List.mem_cons.1 ha with e | ha
      · cases e
        exact ⟨_, derives_variable_iff.2 ⟨_, hr, d⟩⟩
      · exact ih ha

theorem exists_derives (hs : ∀ a, .nonterminal a ∈ rhs → ∃ u, Derives g [.nonterminal a] u) :
    ∃ w, Derives g rhs w := by
  induction rhs with
  | nil => exact ⟨[], .nil⟩
  | cons x rest ih =>
      obtain ⟨v, dv⟩ := ih fun a ha => hs a (List.mem_cons_of_mem _ ha)
      cases x with
      | terminal t => exact ⟨_, .terminal dv⟩
      | nonterminal a =>
          obtain ⟨u, du⟩ := hs a List.mem_cons_self
          exact ⟨_, derives_nonterminal_cons_iff.2 ⟨u, v, rfl, du, dv⟩⟩

/-! ## Carrying derivations to another grammar -/

/-- If every rule of `g` is admissible in `h`, then `h` derives what `g` derives. -/
theorem Derives.of_admissible
    (hadm : ∀ a, ∀ rhs ∈ g.rulesOf a, ∀ w, Derives h rhs w → Derives h [.nonterminal a] w)
    (d : Derives g rhs w) : Derives h rhs w := by
  induction d with
  | nil => exact .nil
  | terminal _ ih => exact .terminal ih
  | nonterminal hr _ _ ihu ihv =>
      exact derives_nonterminal_cons_iff.2 ⟨_, _, rfl, hadm _ _ hr _ ihu, ihv⟩

theorem Derives.mono (hsub : ∀ a, ∀ rhs ∈ g.rulesOf a, rhs ∈ h.rulesOf a)
    (d : Derives g rhs w) : Derives h rhs w :=
  d.of_admissible fun a _ hr _ d => derives_variable_iff.2 ⟨_, hsub a _ hr, d⟩

theorem derives_rules_congr (hrules : h.rules = g.rules) :
    Derives h rhs w ↔ Derives g rhs w := by
  have hrulesOf : ∀ a, h.rulesOf a = g.rulesOf a := by
    intro a
    unfold Grammar.rulesOf Grammar.ruleSet
    rw [hrules]
  exact ⟨fun d => d.mono fun a _ hr => hrulesOf a ▸ hr,
    fun d => d.mono fun a _ hr => (hrulesOf a).symm ▸ hr⟩

/-- A derivation needs the rules of those variables only that can occur in it. -/
theorem Derives.mono_on {p : String → Prop} (d : Derives g rhs w)
    (hsub : ∀ a, p a → ∀ rhs ∈ g.rulesOf a, rhs ∈ h.rulesOf a)
    (hstay : ∀ a, p a → ∀ rhs ∈ g.rulesOf a, ∀ b, .nonterminal b ∈ rhs → p b)
    (hrhs : ∀ b, .nonterminal b ∈ rhs → p b) : Derives h rhs w := by
  induction d with
  | nil => exact .nil
  | terminal _ ih => exact .terminal (ih fun b hb => hrhs b (List.mem_cons_of_mem _ hb))
  | nonterminal hr _ _ ihu ihv =>
      have ha := hrhs _ List.mem_cons_self
      exact .nonterminal (hsub _ ha _ hr) (ihu (hstay _ ha _ hr))
        (ihv fun b hb => hrhs b (List.mem_cons_of_mem _ hb))

/-- Two grammars that agree on a set of variables derive the same words from
sequences over that set, if the rules of the set stay in it. -/
theorem derives_congr {p : String → Prop} (hagree : ∀ a, p a → h.rulesOf a = g.rulesOf a)
    (hstay : ∀ a, p a → ∀ rhs ∈ g.rulesOf a, ∀ b, .nonterminal b ∈ rhs → p b)
    (hrhs : ∀ b, .nonterminal b ∈ rhs → p b) : Derives h rhs w ↔ Derives g rhs w :=
  ⟨fun d => d.mono_on (fun a ha _ hr => hagree a ha ▸ hr)
      (fun a ha rhs hr => hstay a ha rhs (hagree a ha ▸ hr)) hrhs,
    fun d => d.mono_on (fun a ha _ hr => (hagree a ha).symm ▸ hr) hstay hrhs⟩

/-! ## Height -/

theorem DerivesWithin.mono (d : DerivesWithin g n rhs w) (hle : n ≤ m) :
    DerivesWithin g m rhs w := by
  induction d generalizing m with
  | nil => exact .nil
  | terminal _ ih =>
      obtain ⟨k, rfl⟩ : ∃ k, m = k + 1 := ⟨m - 1, by omega⟩
      exact .terminal (ih hle)
  | nonterminal hr _ _ ihu ihv =>
      obtain ⟨k, rfl⟩ : ∃ k, m = k + 1 := ⟨m - 1, by omega⟩
      exact .nonterminal hr (ihu (by omega)) (ihv hle)

theorem DerivesWithin.derives (d : DerivesWithin g n rhs w) : Derives g rhs w := by
  induction d with
  | nil => exact .nil
  | terminal _ ih => exact .terminal ih
  | nonterminal hr _ _ ihu ihv => exact .nonterminal hr ihu ihv

theorem Derives.exists_within (d : Derives g rhs w) : ∃ n, DerivesWithin g n rhs w := by
  induction d with
  | nil => exact ⟨0, .nil⟩
  | terminal _ ih =>
      obtain ⟨n, d⟩ := ih
      exact ⟨n + 1, .terminal (d.mono (Nat.le_succ n))⟩
  | nonterminal hr _ _ ihu ihv =>
      obtain ⟨m, du⟩ := ihu
      obtain ⟨n, dv⟩ := ihv
      exact ⟨max m n + 1, .nonterminal hr (du.mono (by omega)) (dv.mono (by omega))⟩

theorem derivesWithin_variable_iff :
    DerivesWithin g n [.nonterminal a] w ↔
      ∃ m, n = m + 1 ∧ ∃ rhs ∈ g.rulesOf a, DerivesWithin g m rhs w := by
  refine ⟨fun d => ?_, fun h => ?_⟩
  · cases d with
    | nonterminal hr d rest =>
        cases rest
        rw [List.append_nil]
        exact ⟨_, rfl, _, hr, d⟩
  · obtain ⟨m, rfl, rhs, hr, d⟩ := h
    have := DerivesWithin.nonterminal hr d (.nil (n := m + 1))
    rwa [List.append_nil] at this

theorem derivesWithin_nonterminal_cons_iff :
    DerivesWithin g n (.nonterminal a :: rhs) w ↔
      ∃ u v, w = u ++ v ∧ DerivesWithin g n [.nonterminal a] u ∧ DerivesWithin g n rhs v := by
  refine ⟨fun d => ?_, fun h => ?_⟩
  · cases d with
    | nonterminal hr d rest =>
        exact ⟨_, _, rfl, derivesWithin_variable_iff.2 ⟨_, rfl, _, hr, d⟩, rest⟩
  · obtain ⟨u, v, rfl, d, rest⟩ := h
    obtain ⟨m, rfl, r, hr, d⟩ := derivesWithin_variable_iff.1 d
    exact .nonterminal hr d rest

/-- If `h` derives from a variable what `g` does, given that it derives whatever
`g` derives by lower trees, then it derives all that `g` derives. -/
theorem Derives.of_admissible_within
    (hadm : ∀ n a w, (∀ r u, DerivesWithin g n r u → Derives h r u) →
      DerivesWithin g (n + 1) [.nonterminal a] w → Derives h [.nonterminal a] w)
    (d : Derives g rhs w) : Derives h rhs w := by
  have key : ∀ n r u, DerivesWithin g n r u → Derives h r u := by
    intro n
    induction n with
    | zero =>
        intro r u d
        cases d
        exact .nil
    | succ n ih =>
        intro r
        induction r with
        | nil =>
            intro u d
            cases d
            exact .nil
        | cons x rest ihrest =>
            intro u d
            cases x with
            | terminal t =>
                cases d with
                | terminal d => exact .terminal (ihrest _ d)
            | nonterminal a =>
                obtain ⟨u, v, rfl, du, dv⟩ := derivesWithin_nonterminal_cons_iff.1 d
                exact derives_nonterminal_cons_iff.2
                  ⟨u, v, rfl, hadm n a u ih du, ihrest v dv⟩
  obtain ⟨n, d⟩ := d.exists_within
  exact key n _ _ d

/-! ## Grammars without empty rules -/

theorem Derives.length_le (hne : ∀ a, [] ∉ g.rulesOf a) (d : Derives g rhs w) :
    rhs.length ≤ w.length := by
  induction d with
  | nil => exact Nat.le_refl 0
  | terminal _ ih => exact Nat.succ_le_succ ih
  | @nonterminal label rhs rest u v hr _ _ ihu ihv =>
      have hpos : 0 < rhs.length := List.length_pos_iff.2 fun e => hne label (e ▸ hr)
      rw [List.length_cons, List.length_append]
      omega

theorem not_derives_nil (hne : ∀ a, [] ∉ g.rulesOf a) (a : String) :
    ¬ Derives g [.nonterminal a] [] := fun d =>
  absurd (d.length_le hne) (Nat.not_succ_le_zero 0)

end ContextFree
