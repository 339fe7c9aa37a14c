import ContextFree.NormalForm.Conversion
import ContextFree.Proofs.Outcome

/-!
# Contracts for the rewriting of a sequence

A right-hand side is brought into form one place at a time: a standalone variable
is put where a terminal or a pair of neighbours stood. Several things are to be
said about that, for instance that the language is kept, or how many variables
are new, and for each of them the way through the sequence is the same.

A `Contract` is something to be said. It relates the sequence and the workspace
before with those after, it composes, and it holds inside a longer sequence. The
one program with anything in it, looking a standalone variable up or making it,
has to meet the contract; then the others do, and this is proved here once.

The number in a contract is that of the pairs which may be replaced. It is zero
while terminals are, and this makes the number of new variables a matter of
adding up.
-/

namespace ContextFree

variable {S : Standalones} {r : Rhs} {s x y : Symbol} {i n : Nat}

/-! ## The pair to replace -/

namespace Rhs

theorem isNormal_pair (hx : x.isTerminal = false) (hy : y.isTerminal = false) :
    isNormal [x, y] = true := by
  cases x <;> cases y <;> simp_all [Symbol.isTerminal, isNormal]

theorem replacePair_append (pre post : Rhs) (x y s : Symbol) :
    replacePair (pre ++ [x, y] ++ post) pre.length s = pre ++ [s] ++ post := by
  have hdrop : (pre ++ [x, y] ++ post).drop (pre.length + 2) = post := by
    have hlen : pre.length + 2 = (pre ++ [x, y]).length := by simp
    rw [hlen, List.drop_left]
  rw [replacePair, hdrop, List.append_assoc, List.take_left]
  simp

theorem split_of_indexOfPair? (h : indexOfPair? x y r = some i) :
    ∃ pre post, r = pre ++ [x, y] ++ post ∧ pre.length = i := by
  induction r generalizing i with
  | nil => cases h
  | cons s r ih =>
      cases r with
      | nil => cases h
      | cons t r =>
          rw [indexOfPair?] at h
          split at h
          · next e =>
              injection h with h
              subst h
              exact ⟨[], r, by rw [e.1, e.2]; rfl, rfl⟩
          · obtain ⟨j, hj, rfl⟩ := Option.map_eq_some_iff.1 h
            obtain ⟨pre, post, e, hlen⟩ := ih hj
            exact ⟨s :: pre, post, by rw [e]; rfl, by rw [List.length_cons, hlen]⟩

theorem split_of_nextPair? (h : nextPair? S r = some (i, x, y)) :
    ∃ pre post, r = pre ++ [x, y] ++ post ∧ pre.length = i := by
  unfold nextPair? at h
  split at h
  · next p q z rest =>
      injection h with h
      generalize hfind : List.find? _ _ = found at h
      cases found with
      | none =>
          cases h
          exact ⟨[], z :: rest, rfl, rfl⟩
      | some e =>
          obtain rfl : e = (i, x, y) := h
          obtain ⟨pair, -, hp⟩ := List.mem_filterMap.1 (List.mem_of_find?_eq_some hfind)
          obtain ⟨j, hj, he⟩ := Option.map_eq_some_iff.1 hp
          cases he
          exact split_of_indexOfPair? hj
  · cases h

theorem nextPair?_eq_none_iff : nextPair? S r = none ↔ r.length < 3 := by
  match r with
  | [] | [_] | [_, _] => simp [nextPair?]
  | _ :: _ :: _ :: _ => simp [nextPair?]

theorem length_replacePair (h : nextPair? S r = some (i, x, y)) (s : Symbol) :
    (r.replacePair i s).length = r.length - 1 := by
  obtain ⟨pre, post, rfl, rfl⟩ := split_of_nextPair? h
  rw [replacePair_append]
  simp

end Rhs

/-! ## Programs cut into parts -/

namespace Conversion

theorem liftTerminals_append (r s : Rhs) :
    liftTerminals (r ++ s) = do return (← liftTerminals r) ++ (← liftTerminals s) :=
  List.mapM_append

theorem replacePairs_of_short (h : r.length < 3) (n : Nat) : replacePairs n r = pure r := by
  cases n with
  | zero => rfl
  | succ n =>
      simp only [replacePairs, Rhs.nextPair?_eq_none_iff.2 h]
      rfl

/-- Shortening may be interrupted after any number of pairs. -/
theorem shorten_eq (n : Nat) (r : Rhs) : shorten r = replacePairs n r >>= shorten := by
  induction n generalizing r with
  | zero => rw [replacePairs, pure_bind]
  | succ n ih =>
      rcases Nat.lt_or_ge r.length 3 with hshort | hlong
      · rw [replacePairs_of_short hshort, pure_bind]
      · obtain ⟨m, hm⟩ : ∃ m, r.length - 2 = m + 1 := ⟨r.length - 3, by omega⟩
        rw [shorten, hm, replacePairs, replacePairs, bind_assoc]
        refine bind_congr fun w => ?_
        cases h : r.nextPair? w.standalones with
        | none =>
            have := Rhs.nextPair?_eq_none_iff.1 h
            omega
        | some found =>
            obtain ⟨i, x, y⟩ := found
            simp only [bind_assoc]
            refine bind_congr fun label => ?_
            rw [← ih, shorten, Rhs.length_replacePair h, Nat.sub_right_comm, hm]
            rfl

theorem convertProduction_eq {p : Production} (hn : p.rhs.isNormal = false) :
    convertProduction p = liftTerminals p.rhs >>= shorten >>= fun rhs => modify fun w =>
      { w with grammar := w.grammar.modifyRules p.lhs (·.replace p.rhs rhs) } := by
  rw [convertProduction, hn, bind_assoc]
  rfl

/-! ## Programs that meet a contract -/

/-- What a program that rewrites a sequence does, in relations that hold of many
steps if they hold of each. A contract that is met when one standalone variable
takes the place of the right-hand side it stands for is met throughout. -/
structure Contract where
  /-- The sequence and the workspace before and after, if the program returned. -/
  returned : Nat → Workspace → Rhs → Rhs → Workspace → Prop
  /-- The same for a program that stopped, which leaves no sequence behind. -/
  stopped : Nat → Workspace → Rhs → TransformError → Workspace → Prop
  refl (n : Nat) (w : Workspace) (r : Rhs) : returned n w r r w
  trans {m n : Nat} {w w' w'' : Workspace} {long r short : Rhs} :
    returned m w long r w' → returned n w' r short w'' → returned (n + m) w long short w''
  trans_stopped {m n : Nat} {w w' w'' : Workspace} {long r : Rhs} {e : TransformError} :
    returned m w long r w' → stopped n w' r e w'' → stopped (n + m) w long e w''
  context {n : Nat} {w w' : Workspace} {long short : Rhs} (pre post : Rhs) :
    returned n w long short w' → returned n w (pre ++ long ++ post) (pre ++ short ++ post) w'
  context_stopped {n : Nat} {w w' : Workspace} {long : Rhs} {e : TransformError} (pre post : Rhs) :
    stopped n w long e w' → stopped n w (pre ++ long ++ post) e w'
  standaloneFor (w : Workspace) {body : Rhs} : body.isNormal = true →
    Ends ((standaloneFor body).run w)
      (fun label w' => returned (body.length - 1) w body [.nonterminal label] w')
      fun e w' => stopped (body.length - 1) w body e w'

namespace Contract

variable (C : Contract)

theorem stopped_mono {m n : Nat} {w w' : Workspace} {r : Rhs} {e : TransformError}
    (h : C.stopped m w r e w') (hle : m ≤ n) : C.stopped n w r e w' := by
  have hn := C.trans_stopped (C.refl (n - m) w r) h
  rwa [Nat.add_sub_cancel' hle] at hn

variable (w : Workspace)

theorem liftTerminals (r : Rhs) :
    Ends ((liftTerminals r).run w)
      (fun r' w' => C.returned 0 w r r' w' ∧ r'.length = r.length ∧ ∀ s ∈ r', s.isTerminal = false)
      fun e w' => C.stopped 0 w r e w' := by
  induction r generalizing w with
  | nil => exact ⟨C.refl 0 w [], rfl, fun s hs => nomatch hs⟩
  | cons s r ih =>
      -- what follows when the first symbol is done
      have htail : ∀ {s' w'}, C.returned 0 w [s] [s'] w' → s'.isTerminal = false →
          Ends ((do return s' :: (← Conversion.liftTerminals r) : Conversion Rhs).run w')
            (fun r' w' => C.returned 0 w (s :: r) r' w' ∧ r'.length = (s :: r).length ∧
              ∀ s ∈ r', s.isTerminal = false)
            fun e w' => C.stopped 0 w (s :: r) e w' := by
        intro s' w' h hs'
        have hfirst := C.context [] r h
        rw [ends_bind]
        refine (ih w').imp ?_ ?_
        · intro r' w'' hend
          obtain ⟨h', hlen, hr'⟩ := hend
          have hsecond := C.context [s'] [] h'
          rw [List.append_nil, List.append_nil] at hsecond
          refine ⟨C.trans hfirst hsecond, by rw [List.length_cons, List.length_cons, hlen], ?_⟩
          intro t ht
          rcases List.mem_cons.1 ht with rfl | ht
          · exact hs'
          · exact hr' t ht
        · intro e w'' h'
          have hsecond := C.context_stopped [s'] [] h'
          rw [List.append_nil] at hsecond
          exact C.trans_stopped hfirst hsecond
      rw [Conversion.liftTerminals, List.mapM_cons, ends_bind]
      cases s with
      | terminal a =>
          have hn : Rhs.isNormal [.terminal a] = true := rfl
          rw [ends_bind]
          refine (C.standaloneFor w hn).imp ?_ ?_
          · exact fun label w' h => htail h rfl
          · exact fun e w' h => C.context_stopped [] r h
      | nonterminal a => exact htail (C.refl 0 w _) rfl

theorem replacePairs (n : Nat) {r : Rhs} (hvars : ∀ s ∈ r, s.isTerminal = false) :
    Ends ((replacePairs n r).run w)
      (fun r' w' => C.returned n w r r' w' ∧ r'.length = max (min 2 r.length) (r.length - n) ∧
        ∀ s ∈ r', s.isTerminal = false)
      fun e w' => C.stopped n w r e w' := by
  induction n generalizing w r with
  | zero => exact ⟨C.refl 0 w r, by omega, hvars⟩
  | succ n ih =>
      rw [Conversion.replacePairs, ends_get_bind]
      split
      · next hnone =>
          have := Rhs.nextPair?_eq_none_iff.1 hnone
          exact ⟨C.refl (n + 1) w r, by omega, hvars⟩
      · next i x y hsome =>
          have hlong : ¬ r.length < 3 := by
            rw [← Rhs.nextPair?_eq_none_iff, hsome]
            exact Option.some_ne_none _
          obtain ⟨pre, post, rfl, rfl⟩ := Rhs.split_of_nextPair? hsome
          have hn : Rhs.isNormal [x, y] = true :=
            Rhs.isNormal_pair (hvars x (by simp)) (hvars y (by simp))
          rw [ends_bind]
          refine (C.standaloneFor w hn).imp ?_ ?_
          · intro label w' h
            have hfirst := C.context pre post h
            rw [Rhs.replacePair_append]
            refine (ih w' (r := pre ++ [.nonterminal label] ++ post) ?_).imp ?_ ?_
            · intro s hs
              simp only [List.mem_append, List.mem_singleton] at hs
              rcases hs with (hs | rfl) | hs
              · exact hvars s (by simp [hs])
              · rfl
              · exact hvars s (by simp [hs])
            · intro r' w'' hend
              obtain ⟨h', hlen, hr'⟩ := hend
              refine ⟨C.trans hfirst h', ?_, hr'⟩
              simp only [List.length_append, List.length_cons, List.length_nil] at hlen hlong ⊢
              omega
            · exact fun e w'' h' => C.trans_stopped hfirst h'
          · exact fun e w' h =>
              C.stopped_mono (C.context_stopped pre post h) (Nat.succ_le_succ (Nat.zero_le n))

/-- Terminals are replaced first and pairs after them, as many as the length calls
for. -/
theorem liftTerminals_replacePairs (pairs : Nat → Nat) (r : Rhs) :
    Ends ((do
      let r' ← Conversion.liftTerminals r
      Conversion.replacePairs (pairs r'.length) r' : Conversion Rhs).run w)
      (fun r' w' => C.returned (pairs r.length) w r r' w' ∧
        r'.length = max (min 2 r.length) (r.length - pairs r.length) ∧
        ∀ s ∈ r', s.isTerminal = false)
      fun e w' => C.stopped (pairs r.length) w r e w' := by
  rw [ends_bind]
  refine (C.liftTerminals w r).imp ?_ ?_
  · intro r' w' hend
    obtain ⟨h, hlen, hvars⟩ := hend
    rw [hlen]
    refine (C.replacePairs w' (pairs r.length) hvars).imp ?_ ?_
    · intro r'' w'' hend
      obtain ⟨h', hlen', hvars'⟩ := hend
      exact ⟨C.trans h h', hlen ▸ hlen', hvars'⟩
    · exact fun e w'' h' => C.trans_stopped h h'
  · exact fun e w' h => C.stopped_mono h (Nat.zero_le _)

theorem liftTerminals_shorten {r : Rhs} (hlen : 2 ≤ r.length) :
    Ends ((do shorten (← Conversion.liftTerminals r) : Conversion Rhs).run w)
      (fun r' w' => C.returned (r.length - 2) w r r' w' ∧
        ∃ b c, r' = [.nonterminal b, .nonterminal c])
      fun e w' => C.stopped (r.length - 2) w r e w' := by
  refine (C.liftTerminals_replacePairs w (· - 2) r).imp ?_ fun _ _ h => h
  intro r' w' hend
  obtain ⟨h, hlen', hvars⟩ := hend
  refine ⟨h, ?_⟩
  have htwo : r'.length = 2 := by omega
  match r', htwo with
  | [.nonterminal b, .nonterminal c], _ => exact ⟨b, c, rfl⟩
  | [.terminal t, _], _ => cases hvars (.terminal t) (by simp)
  | [_, .terminal t], _ => cases hvars (.terminal t) (by simp)

end Contract

end Conversion

end ContextFree
