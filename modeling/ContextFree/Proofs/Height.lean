import ContextFree.Proofs.Derivation
import ContextFree.Proofs.Saturation

/-!
# Derivations of a short word need not be high

The trees that a variable derives a word through may be high, through cycles and
variables that vanish, but not all of them are. Look at one word and assume that
all shorter words are derived by trees of some height already. With every unit of
height beyond that, more variables derive the word, or no more ever will: whether
a variable joins depends on the shorter words and on the variables that derive
this word one unit lower. There are only as many variables as are registered, so
that many units are enough for the word, and as many for every word shorter by one
symbol.
-/

namespace ContextFree

variable {g : Grammar} {a b : String} {rhs : Rhs} {u v w : Word} {m n k : Nat}

/-! ## Growing sets of labels -/

section growing

variable {P : Nat → String → Prop} {labels : List String}

theorem of_le_of_growing (hmono : ∀ k a, P k a → P (k + 1) a) (hle : m ≤ n) (h : P m a) : P n a := by
  induction hle with
  | refl => exact h
  | step _ ih => exact hmono _ _ ih

theorem of_growing_of_stable (hstep : ∀ k, (∀ a, P (k + 1) a → P k a) → ∀ a, P (k + 2) a → P (k + 1) a)
    (hstable : ∀ a, P (m + 1) a → P m a) (h : P (m + n) a) : P m a := by
  have key : ∀ n, ∀ a, P (m + n + 1) a → P (m + n) a := by
    intro n
    induction n with
    | zero => exact hstable
    | succ n ih => exact hstep _ ih
  induction n with
  | zero => exact h
  | succ n ih => exact ih (key n a h)

/-- A growing set of labels from a list has all its labels after as many stages as
the list is long. -/
theorem of_growing (hmono : ∀ k a, P k a → P (k + 1) a) (hlabels : ∀ k a, P k a → a ∈ labels)
    (hstep : ∀ k, (∀ a, P (k + 1) a → P k a) → ∀ a, P (k + 2) a → P (k + 1) a) (h : P k a) :
    P labels.length a := by
  classical
  have hcount : ∀ k, (∃ j, j ≤ k ∧ ∀ a, P (j + 1) a → P j a) ∨
      k ≤ labels.countP fun a => decide (P k a) := by
    intro k
    induction k with
    | zero => exact Or.inr (Nat.zero_le _)
    | succ k ih =>
        rcases ih with ⟨j, hj, hstable⟩ | hle
        · exact Or.inl ⟨j, by omega, hstable⟩
        · by_cases hstable : ∀ a, P (k + 1) a → P k a
          · exact Or.inl ⟨k, by omega, hstable⟩
          · -- some label is new at this stage
            obtain ⟨b, hb⟩ := Classical.not_forall.1 hstable
            obtain ⟨hnew, hold⟩ := Classical.not_imp.1 hb
            refine Or.inr (Nat.lt_of_le_of_lt hle ?_)
            exact countP_lt_countP (fun c _ hc => decide_eq_true (hmono k c (of_decide_eq_true hc)))
              (hlabels _ b hnew) (decide_eq_false hold) (decide_eq_true hnew)
  rcases hcount labels.length with ⟨j, hj, hstable⟩ | hle
  · have hkj : P (j + k) a := of_le_of_growing hmono (by omega) h
    exact of_le_of_growing hmono hj (of_growing_of_stable hstep hstable hkj)
  · have hall := List.countP_eq_length.1 (Nat.le_antisymm List.countP_le_length hle)
    exact of_decide_eq_true (hall a (hlabels k a h))

end growing

/-! ## The bound -/

/-- A sequence needs no higher trees than its variables need for the parts of the
word. -/
theorem DerivesWithin.lower (d : DerivesWithin g (m + 2) rhs w) (hw : w <:+: u)
    (hvar : ∀ b v, v <:+: u → DerivesWithin g (m + 2) [.nonterminal b] v →
      DerivesWithin g (m + 1) [.nonterminal b] v) : DerivesWithin g (m + 1) rhs w := by
  induction rhs generalizing w with
  | nil =>
      cases d
      exact .nil
  | cons s rest ih =>
      cases s with
      | terminal t =>
          cases d with
          | terminal d => exact .terminal (ih d ((List.suffix_cons t _).isInfix.trans hw))
      | nonterminal b =>
          obtain ⟨x, y, rfl, dx, dy⟩ := derivesWithin_nonterminal_cons_iff.1 d
          refine derivesWithin_nonterminal_cons_iff.2 ⟨x, y, rfl, hvar b x ?_ dx, ih dy ?_⟩
          · exact (List.prefix_append x y).isInfix.trans hw
          · exact (List.suffix_append x y).isInfix.trans hw

/-- If shorter words need a certain height, a word needs as many units more as
there are variables. -/
theorem derivesWithin_of_shorter
    (hshort : ∀ b v, v.length < u.length → Derives g [.nonterminal b] v →
      DerivesWithin g (n + 1) [.nonterminal b] v) (d : Derives g [.nonterminal a] u) :
    DerivesWithin g (n + 1 + g.variableLabels.length) [.nonterminal a] u := by
  obtain ⟨k, d⟩ := d.exists_within
  have d : DerivesWithin g (n + 1 + k) [.nonterminal a] u := d.mono (by omega)
  refine of_growing (P := fun k a => DerivesWithin g (n + 1 + k) [.nonterminal a] u)
    (fun k a d => d.mono (by omega)) (fun k a d => ?_) (fun k hstable a d => ?_) d
  · obtain ⟨-, -, rhs, hr, -⟩ := derivesWithin_variable_iff.1 d
    exact Grammar.mem_variableLabels_of_mem hr
  · obtain ⟨i, hi, rhs, hr, d⟩ := derivesWithin_variable_iff.1 d
    obtain rfl : i = n + k + 2 := by omega
    have hlower : DerivesWithin g (n + k + 1) rhs u := by
      refine d.lower List.infix_rfl fun b v hv dv => ?_
      rcases Nat.lt_or_eq_of_le hv.length_le with hlt | heq
      · exact (hshort b v hlt dv.derives).mono (by omega)
      · obtain rfl := hv.eq_of_length heq
        have := hstable b (dv.mono (by omega))
        exact this.mono (by omega)
    exact derivesWithin_variable_iff.2 ⟨n + k + 1, by omega, rhs, hr, hlower⟩

/-- A variable that derives a word does so by a tree of bounded height. -/
theorem Derives.derivesWithin (d : Derives g [.nonterminal a] u) :
    DerivesWithin g (1 + g.variableLabels.length * (u.length + 1)) [.nonterminal a] u := by
  generalize hlen : u.length = k
  induction k using Nat.strongRecOn generalizing a u with
  | _ k ih =>
      have h := derivesWithin_of_shorter (n := g.variableLabels.length * k) (u := u)
        (fun b v hv dv => ?_) d
      · refine h.mono (Nat.le_of_eq ?_)
        rw [Nat.mul_succ]
        omega
      · have hle : g.variableLabels.length * (v.length + 1) ≤ g.variableLabels.length * k :=
          Nat.mul_le_mul_left _ (by omega)
        exact (ih v.length (by omega) dv rfl).mono (by omega)

end ContextFree
