import ContextFree.Proofs.Abbreviation
import ContextFree.Proofs.Reading
import ContextFree.Proofs.StartSymbol
import Mathlib.Algebra.Order.Ring.Nat

/-!
# Standalone variables are shared

The table of standalone variables is made once, before the loop over the rules. Then
rules are replaced, some of them by rules that their owners have already, and
variables are added. This file says what holds of the table all the while, at every
point the loop comes to: every entry names a variable that is not the start symbol
and whose one rule is that of the entry, and a variable is made only for what has no
entry. So few variables are made: one for a terminal at most, and one for each pair
that is replaced.

A variable may come to own a single rule in form while the loop runs. It gets no
entry then, and its right-hand side may get another variable; the table speaks of
the variables that were standalone at the beginning and of those that were made.

The loop is followed in any grammar that comes out of simplification. The start
symbol of such a grammar is registered, so no label that is drawn is the start
symbol.
-/

namespace ContextFree

variable {g : Grammar} {w w' : Workspace} {p : Production} {done rest : List Production}
  {made made' : List (Rhs × String)} {r : Rhs} {n : Nat}

/-! ## The points of the loop -/

/-- A workspace that the loop over the rules comes to: between two rules, while the
terminals of a rule out of form are lifted, from the left, or while its pairs are
replaced. If the labels run out, the point at which they do is meant. -/
inductive Conversion.LoopPoint (g : Grammar) : Workspace → Prop where
  | between {done rest : List Production} : g.productions = done ++ rest →
      LoopPoint g (finalState ((done.forM convertProduction).run g.workspace))
  | lifting {done rest : List Production} {p : Production} (i : Nat) :
      g.productions = done ++ p :: rest → p.rhs.isNormal = false →
      LoopPoint g (finalState ((do
        done.forM convertProduction
        liftTerminals (p.rhs.take i)).run g.workspace))
  | shortening {done rest : List Production} {p : Production} {n : Nat} :
      g.productions = done ++ p :: rest → p.rhs.isNormal = false → n ≤ p.rhs.length - 2 →
      LoopPoint g (finalState ((do
        done.forM convertProduction
        let r ← liftTerminals p.rhs
        replacePairs n r).run g.workspace))

/-- The loop passes through these points: however a rule out of form is cut in two, and
after however many pairs the loop is interrupted. -/
theorem Conversion.convertAll_run_eq (hsplit : g.productions = done ++ p :: rest)
    (hn : p.rhs.isNormal = false) (i n : Nat) :
    convertAll.run g.workspace = (do
      done.forM convertProduction
      let r₁ ← liftTerminals (p.rhs.take i)
      let r₂ ← liftTerminals (p.rhs.drop i)
      let r ← replacePairs n (r₁ ++ r₂)
      let rhs ← shorten r
      modify fun (w : Workspace) => { w with grammar := w.grammar.replaceRule p.lhs p.rhs rhs }
      rest.forM convertProduction : Conversion Unit).run g.workspace := by
  have hcut : liftTerminals p.rhs >>= shorten = liftTerminals (p.rhs.take i) >>= fun r₁ =>
      liftTerminals (p.rhs.drop i) >>= fun r₂ => replacePairs n (r₁ ++ r₂) >>= shorten := by
    have hlift := liftTerminals_append (p.rhs.take i) (p.rhs.drop i)
    rw [List.take_append_drop] at hlift
    simp only [hlift, bind_assoc, pure_bind, ← shorten_eq]
  show (g.productions.forM convertProduction).run g.workspace = _
  rw [hsplit, List.forM_eq_forM, List.forM_append, List.forM_cons, convertProduction_eq hn, hcut]
  simp only [bind_assoc]
  rfl

theorem Conversion.loopPoint_convertAll (g : Grammar) :
    LoopPoint g (finalState (convertAll.run g.workspace)) :=
  .between (List.append_nil g.productions).symm

/-! ## What the rules call for -/

/-- The rules that are out of form. -/
def outOfForm (ps : List Production) : List Production := ps.filter fun p => !p.rhs.isNormal

/-- The number of variables that conversion makes at most: one for each terminal in a
rule out of form, and for such a rule one for every symbol beyond two. -/
def Grammar.standaloneBound (g : Grammar) : Nat :=
  ((outOfForm g.productions).flatMap (·.rhs.terminals)).dedup.length +
    ((outOfForm g.productions).map (·.rhs.length - 2)).sum

/-- Variables were made that some rules call for, and no others. -/
def MadeFor (ps : List Production) (made : List (Rhs × String)) : Prop :=
  MadeWithin ((outOfForm ps).flatMap (·.rhs.terminals)) ((outOfForm ps).map (·.rhs.length - 2)).sum
    made

theorem outOfForm_append (ps qs : List Production) :
    outOfForm (ps ++ qs) = outOfForm ps ++ outOfForm qs :=
  List.filter_append ..

theorem MadeFor.append_right (h : MadeFor done made) (rest : List Production) :
    MadeFor (done ++ rest) made := by
  unfold MadeFor at h ⊢
  rw [outOfForm_append, List.flatMap_append, List.map_append, List.sum_append]
  exact h.mono (fun t ht => List.mem_append_left _ ht) (Nat.le_add_right _ _)

theorem MadeFor.snoc (h : MadeFor done made) (hn : p.rhs.isNormal = false)
    (h' : MadeWithin p.rhs.terminals (p.rhs.length - 2) made') :
    MadeFor (done ++ [p]) (made ++ made') := by
  have hp : outOfForm [p] = [p] := by simp [outOfForm, hn]
  unfold MadeFor at h ⊢
  rw [outOfForm_append, hp, List.flatMap_append, List.map_append, List.sum_append, Nat.add_comm]
  refine (h.mono (fun t ht => List.mem_append_left _ ht) (Nat.le_refl _)).append
    (h'.mono (fun t ht => List.mem_append_right _ ?_) ?_)
  · simpa using ht
  · simp

/-! ## The invariant of the loop -/

/-- The workspace evolved, and the variables that were made are called for by the
rules that were gone through. -/
def Workspace.EvolvedFor (g : Grammar) (done : List Production) (w : Workspace) : Prop :=
  ∃ made, g.workspace.Evolves made w ∧ MadeFor done made

/-- The state between two rules: the rest of the rules is still there. -/
structure Workspace.Between (g : Grammar) (done rest : List Production) (w : Workspace) :
    Prop where
  evolved : EvolvedFor g done w
  nodup : rest.Nodup
  mem : ∀ p ∈ rest, p.rhs ∈ w.grammar.rulesOf p.lhs

namespace Workspace

theorem between_workspace (g : Grammar) : Between g [] g.productions g.workspace where
  evolved := ⟨[], .refl, .nil _ _⟩
  nodup := Grammar.nodup_productions g
  mem := fun _ hp => Grammar.mem_productions.1 hp

theorem EvolvedFor.append_right (h : EvolvedFor g done w) (rest : List Production) :
    EvolvedFor g (done ++ rest) w := by
  obtain ⟨made, e, hmade⟩ := h
  exact ⟨made, e, hmade.append_right rest⟩

/-- While a rule is rewritten it calls for the variables that are made. -/
theorem EvolvedFor.adds (h : EvolvedFor g done w) (hn : p.rhs.isNormal = false)
    (e : w.Adds (p.rhs.length - 2) p.rhs made w') : EvolvedFor g (done ++ [p]) w' := by
  obtain ⟨made₀, e₀, hmade₀⟩ := h
  exact ⟨made₀ ++ made, e₀.trans e.evolves, hmade₀.snoc hn e.madeWithin⟩

theorem Between.tail (h : Between g done (p :: rest) w) :
    Between g (done ++ [p]) rest w where
  evolved := h.evolved.append_right [p]
  nodup := (List.nodup_cons.1 h.nodup).2
  mem := fun q hq => h.mem q (List.mem_cons_of_mem _ hq)

/-- The rewritten rule is put in its place. -/
theorem Between.replaceRule (h : Between g done (p :: rest) w) (hn : p.rhs.isNormal = false)
    (e : w.Shortens (p.rhs.length - 2) p.rhs r made w') :
    Between g (done ++ [p]) rest
      { w' with grammar := w'.grammar.replaceRule p.lhs p.rhs r } where
  evolved := by
    obtain ⟨made₀, e₀, hmade₀⟩ := h.evolved.adds hn e.toAdds
    exact ⟨made₀, e₀.put (e.grammar.mem_rulesOf (h.mem p List.mem_cons_self)) hn, hmade₀⟩
  nodup := (List.nodup_cons.1 h.nodup).2
  mem := by
    intro q hq
    have hp := e.grammar.mem_rulesOf (h.mem p List.mem_cons_self)
    have hq' := e.grammar.mem_rulesOf (h.mem q (List.mem_cons_of_mem _ hq))
    exact Grammar.mem_replaceRule_of_ne r hp hq' fun e => (List.nodup_cons.1 h.nodup).1 (e ▸ hq)

end Workspace

namespace Conversion

open Workspace

theorem convertProduction_between (h : Between g done (p :: rest) w) :
    Ends ((convertProduction p).run w) (fun _ w' => Between g (done ++ [p]) rest w')
      fun _ w' => EvolvedFor g (done ++ [p]) w' := by
  cases hn : p.rhs.isNormal with
  | true =>
      rw [convertProduction, hn]
      exact h.tail
  | false =>
      rw [convertProduction_eq hn, ends_bind]
      refine (keepsRecord.liftTerminals_replacePairs w (· - 2) p.rhs).imp ?_ ?_
      · intro rhs w' hend
        obtain ⟨⟨made, e⟩, -⟩ := hend
        exact h.replaceRule hn e
      · intro _ w' hend
        obtain ⟨⟨made, e⟩, -⟩ := hend
        exact h.evolved.adds hn e

theorem forM_convertProduction_between {ps : List Production}
    (h : Between g done (ps ++ rest) w) :
    Ends ((ps.forM convertProduction).run w) (fun _ w' => Between g (done ++ ps) rest w')
      fun _ w' => EvolvedFor g (done ++ ps) w' := by
  induction ps generalizing done w with
  | nil =>
      rw [List.append_nil]
      exact h
  | cons p ps ih =>
      rw [List.forM_eq_forM, List.forM_cons, ends_bind]
      have hassoc : done ++ p :: ps = done ++ [p] ++ ps := by simp
      rw [hassoc]
      refine (convertProduction_between h).imp (fun _ w' h => ?_) fun _ w' h => h.append_right ps
      exact ih h

theorem forM_convertProduction_evolvedFor (hsplit : g.productions = done ++ rest) :
    Ends ((done.forM convertProduction).run g.workspace) (fun _ w => Between g done rest w)
      fun _ w => EvolvedFor g g.productions w := by
  have h := between_workspace g
  rw [hsplit] at h ⊢
  exact (forM_convertProduction_between h).imp (fun _ _ h => h) fun _ _ h => h.append_right rest

/-- A program that adds what one rule calls for may be run when the loop has come to
that rule. -/
theorem evolvedFor_inside {α : Type} {x : Conversion α} (hsplit : g.productions = done ++ p :: rest)
    (hn : p.rhs.isNormal = false)
    (hx : ∀ w, Ends (x.run w) (fun _ w' => ∃ made, w.Adds (p.rhs.length - 2) p.rhs made w')
      fun _ w' => ∃ made, w.Adds (p.rhs.length - 2) p.rhs made w') :
    EvolvedFor g g.productions
      (finalState ((do done.forM convertProduction; x : Conversion α).run g.workspace)) := by
  refine Ends.finalState (P := EvolvedFor g g.productions) ?_
  rw [ends_bind]
  refine (forM_convertProduction_evolvedFor hsplit).imp (fun _ w h => ?_) fun _ _ h => h
  have hrule : ∀ w', (∃ made, w.Adds (p.rhs.length - 2) p.rhs made w') →
      EvolvedFor g g.productions w' := by
    intro w' hadds
    obtain ⟨made, e⟩ := hadds
    have hdone := (h.evolved.adds hn e).append_right rest
    rwa [List.append_assoc, List.singleton_append, ← hsplit] at hdone
  exact (hx w).imp (fun _ => hrule) fun _ => hrule

/-- At every point, variables were made for the rules of the grammar only. -/
theorem LoopPoint.evolvedFor (hw : LoopPoint g w) : EvolvedFor g g.productions w := by
  cases hw with
  | @between done rest hsplit =>
      refine Ends.finalState (P := EvolvedFor g g.productions) ?_
      refine (forM_convertProduction_evolvedFor hsplit).imp (fun _ w h => ?_) fun _ _ h => h
      rw [hsplit]
      exact h.evolved.append_right rest
  | @lifting done rest p i hsplit hn =>
      refine evolvedFor_inside hsplit hn fun w => ?_
      have hpart : ∀ {made w'}, w.Adds 0 (p.rhs.take i) made w' →
          w.Adds (p.rhs.length - 2) p.rhs made w' := by
        intro made w' e
        have hwhole := (e.context [] (p.rhs.drop i)).mono (Nat.zero_le (p.rhs.length - 2))
        rwa [List.nil_append, List.take_append_drop] at hwhole
      refine (keepsRecord.liftTerminals w _).imp ?_ ?_
      · intro _ w' hend
        obtain ⟨⟨made, e⟩, -⟩ := hend
        exact ⟨made, hpart e.toAdds⟩
      · intro _ w' hend
        obtain ⟨⟨made, e⟩, -⟩ := hend
        exact ⟨made, hpart e⟩
  | @shortening done rest p n hsplit hn hle =>
      refine evolvedFor_inside hsplit hn fun w => ?_
      refine (keepsRecord.liftTerminals_replacePairs w (fun _ => n) p.rhs).imp ?_ ?_
      · intro _ w' hend
        obtain ⟨⟨made, e⟩, -⟩ := hend
        exact ⟨made, e.toAdds.mono hle⟩
      · intro _ w' hend
        obtain ⟨⟨made, e⟩, -⟩ := hend
        exact ⟨made, e.mono hle⟩

theorem start_mem_of_simplified {g₀ : Grammar} {newStart : Option String} {limit : Int}
    (h : (do Transform.isolateStart newStart; Transform.simplify limit : Transform Unit).run g₀ =
      .ok () g) : g.start ∈ g.variableLabels := by
  have hends : Ends ((do
      Transform.isolateStart newStart
      Transform.simplify limit : Transform Unit).run g₀)
      (fun _ g => g.start ∈ g.variableLabels) fun _ _ => True := by
    rw [ends_bind]
    exact (ends_true _).imp (fun _ g _ => Transform.simplify_start_mem limit g) fun _ _ h => h
  exact hends.of_ok h

/-- At every point of the loop over the rules of a simplified grammar, each entry of the
table names a variable that is not the start symbol and whose one rule is that of the
entry. The table and the list of the variables are those of the beginning, continued by
the variables that were made; each was made for a right-hand side that had no entry
then, under a label that no symbol had. They are for different right-hand sides and no
more than the rules out of form call for. -/
theorem standalones_shared {g₀ : Grammar} {newStart : Option String} {limit : Int}
    (h : (do Transform.isolateStart newStart; Transform.simplify limit : Transform Unit).run g₀ =
      .ok () g) (hw : LoopPoint g w) :
    (∀ body label, w.standalones.get? body = some label →
      label ∈ w.grammar.variableLabels ∧ label ≠ w.grammar.start ∧
        w.grammar.rulesOf label = [body]) ∧
    ∃ made, g.workspace.Evolves made w ∧
      w.standalones.entries = g.standalones.entries ++ made ∧
      w.grammar.variableLabels = g.variableLabels ++ made.map Prod.snd ∧
      (∀ before body label after, made = before ++ (body, label) :: after →
        ∃ v, g.workspace.Evolves before v ∧ v.Evolves ((body, label) :: after) w ∧
          v.standalones.get? body = none ∧ v.grammar.hasSymbol label = false) ∧
      (made.map Prod.fst).Nodup ∧ made.length ≤ g.standaloneBound := by
  obtain ⟨made, e, hmade⟩ := hw.evolvedFor
  refine ⟨fun body label hl => ?_, made, e, e.entries_eq, e.variableLabels_eq,
    fun _ _ _ _ hsplit => e.at_mint hsplit, e.nodup_bodies,
    hmade.length_le (fun _ => e.isNormal_of_mem) e.nodup_bodies⟩
  have hrules := (e.exact (valid_standalones g).exact body label hl).1
  have hbody : body ∈ w.grammar.rulesOf label := by
    rw [hrules]
    exact List.mem_cons_self
  have hstart : w.grammar.start = g.start := by
    rw [e.frame]
    rfl
  refine ⟨Grammar.mem_variableLabels_of_mem hbody, ?_, hrules⟩
  rw [hstart]
  have hentry := OrderedMap.mem_entries_iff.2 hl
  rw [e.entries_eq, List.mem_append, OrderedMap.mem_entries_iff] at hentry
  -- the table left the start symbol out, and a label that is drawn is not registered
  rcases hentry with hold | hnew
  · exact (valid_standalones g body label hold).ne_start
  · exact fun heq => e.not_mem_variableLabels hnew (heq ▸ start_mem_of_simplified h)

theorem standalones_shared_matchedLetters :
    ∃ g w, (do
        Transform.isolateStart none
        Transform.simplify 10 : Transform Unit).run Grammar.matchedLetters = .ok () g ∧
      LoopPoint g w ∧ w.standalones.entries = [([.terminal "a"], "B"), ([.terminal "b"], "C"),
        ([.nonterminal "B", .nonterminal "S"], "D")] ∧
      w.grammar.rulesOf "D" = [[.nonterminal "B", .nonterminal "S"]] ∧
      ∃ made, g.workspace.Evolves made w ∧ made.length ≤ g.standaloneBound := by
  obtain ⟨g, h⟩ : ∃ g, (do
      Transform.isolateStart none
      Transform.simplify 10 : Transform Unit).run Grammar.matchedLetters = .ok () g := ⟨_, rfl⟩
  have hw := loopPoint_convertAll g
  obtain ⟨hentries, made, e, -, -, -, -, hle⟩ := standalones_shared h hw
  have htable : (finalState (convertAll.run g.workspace)).standalones.entries =
      [([.terminal "a"], "B"), ([.terminal "b"], "C"),
        ([.nonterminal "B", .nonterminal "S"], "D")] := by
    cases h
    rfl
  refine ⟨g, _, h, hw, htable, (hentries _ "D" ?_).2.2, made, e, hle⟩
  rw [← OrderedMap.mem_entries_iff, htable]
  simp

end Conversion

end ContextFree
