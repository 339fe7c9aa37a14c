import ContextFree.Proofs.Contract
import ContextFree.Proofs.Evolution

/-!
# Two nonterminals abbreviate a sequence

When the terminals of a sequence are lifted and its pairs are replaced, two
nonterminals are left. Unfolding standalone variables in them gives the sequence
back, so in the grammar with the new variables they derive what the sequence
derived before.

The pair that goes next is chosen with its place, and it stands there. That is
enough for any choice to be right: a pair may occur several times or overlap with
itself, and the label of a standalone variable that is used again may stand in the
sequence already.

Unlike the conversion of a whole grammar, this asks for nothing but that the rules
mention registered variables. The start symbol need not be registered, and then it
may even be drawn as a label; so the argument goes through the rules of the owners
in the table and never says that they are not the start symbol.
-/

namespace ContextFree

variable {g : Grammar} {S : Standalones} {r long short : Rhs} {m n : Nat}
  {made made' : List (Rhs × String)} {w w' w'' : Workspace}

theorem Rhs.nextPair?_stands (hlen : 2 < r.length) :
    ∃ i x y, r.nextPair? S = some (i, x, y) ∧ (r.drop i).take 2 = [x, y] := by
  cases h : r.nextPair? S with
  | none =>
      have := nextPair?_eq_none_iff.1 h
      omega
  | some found =>
      obtain ⟨i, x, y⟩ := found
      refine ⟨i, x, y, rfl, ?_⟩
      obtain ⟨pre, post, rfl, rfl⟩ := split_of_nextPair? h
      simp

namespace Workspace

/-- New variables were made while a sequence was rewritten: for terminals that stood
in it, and for at most so many pairs. -/
structure Adds (w : Workspace) (n : Nat) (long : Rhs) (made : List (Rhs × String))
    (w' : Workspace) : Prop where
  evolves : w.Evolves made w'
  grammar : w.grammar.Extends w'.grammar
  madeWithin : MadeWithin long.terminals n made

/-- New variables were made, and with them a sequence became shorter. -/
structure Shortens (w : Workspace) (n : Nat) (long short : Rhs) (made : List (Rhs × String))
    (w' : Workspace) : Prop extends w.Adds n long made w' where
  expands : Expands w'.standalones short long
  terminals_subset : ∀ t ∈ short.terminals, t ∈ long.terminals

theorem Adds.refl (w : Workspace) (n : Nat) (r : Rhs) : w.Adds n r [] w :=
  ⟨.refl, .refl _, .nil _ _⟩

theorem Adds.mono (e : w.Adds m long made w') (hle : m ≤ n) : w.Adds n long made w' where
  evolves := e.evolves
  grammar := e.grammar
  madeWithin := e.madeWithin.mono (fun _ ht => ht) hle

theorem Shortens.refl (w : Workspace) (n : Nat) (r : Rhs) : w.Shortens n r r [] w :=
  ⟨.refl w n r, .refl, fun _ ht => ht⟩

theorem Shortens.trans_adds (e : w.Shortens m long r made w') (e' : w'.Adds n r made' w'') :
    w.Adds (n + m) long (made ++ made') w'' where
  evolves := e.evolves.trans e'.evolves
  grammar := e.grammar.trans e'.grammar
  madeWithin := e.madeWithin.append (e'.madeWithin.mono e.terminals_subset (Nat.le_refl n))

theorem Shortens.trans (e : w.Shortens m long r made w') (e' : w'.Shortens n r short made' w'') :
    w.Shortens (n + m) long short (made ++ made') w'' where
  toAdds := e.trans_adds e'.toAdds
  expands := e'.expands.trans (e.expands.mono e'.evolves.get?_eq_some)
  terminals_subset := fun t ht => e.terminals_subset t (e'.terminals_subset t ht)

theorem Adds.context (e : w.Adds n long made w') (pre post : Rhs) :
    w.Adds n (pre ++ long ++ post) made w' where
  evolves := e.evolves
  grammar := e.grammar
  madeWithin := by
    refine e.madeWithin.mono (fun t ht => ?_) (Nat.le_refl n)
    rw [Rhs.mem_terminals] at ht ⊢
    exact List.mem_append_left _ (List.mem_append_right _ ht)

theorem Shortens.context (e : w.Shortens n long short made w') (pre post : Rhs) :
    w.Shortens n (pre ++ long ++ post) (pre ++ short ++ post) made w' where
  toAdds := e.toAdds.context pre post
  expands := e.expands.context pre post
  terminals_subset := by
    intro t ht
    have hsub := e.terminals_subset t
    simp only [Rhs.mem_terminals, List.mem_append] at ht hsub ⊢
    exact ht.imp_left (Or.imp_right hsub)

/-- The variable that is made for a right-hand side takes its place. -/
theorem shortens_withVariable {body : Rhs} {label : String}
    (hnone : w.standalones.get? body = none) (hfree : w.grammar.hasSymbol label = false)
    (hn : body.isNormal = true) :
    w.Shortens (body.length - 1) body [.nonterminal label] [(body, label)]
      ⟨w.grammar.withVariable label body, w.standalones.insertNew body label⟩ where
  evolves := Evolves.refl.mint hnone hfree hn
  grammar := Grammar.extends_withVariable (Grammar.hasSymbol_eq_false_iff.1 hfree).1 body
  madeWithin := .single hn label
  expands := by
    refine .single ?_
    show (w.standalones.insertNew body label).get? body = _
    rw [OrderedMap.get?_insertNew, if_pos ⟨rfl, OrderedMap.not_mem_keys_of_get? hnone⟩]
  terminals_subset := fun _ ht => nomatch ht

end Workspace

namespace Conversion

/-- The record of the variables that are made. A program stops for one reason only:
a label is needed and none is left. -/
def keepsRecord : Contract where
  returned n w long short w' := ∃ made, w.Shortens n long short made w'
  stopped n w long e w' := (∃ made, w.Adds n long made w') ∧ e = .labelsExhausted ∧
    w'.grammar.freshLabel? = none
  refl n w r := ⟨[], .refl w n r⟩
  trans h h' := by
    obtain ⟨made, h⟩ := h
    obtain ⟨made', h'⟩ := h'
    exact ⟨made ++ made', h.trans h'⟩
  trans_stopped h h' := by
    obtain ⟨made, h⟩ := h
    obtain ⟨⟨made', h'⟩, hstop⟩ := h'
    exact ⟨⟨made ++ made', h.trans_adds h'⟩, hstop⟩
  context pre post h := by
    obtain ⟨made, h⟩ := h
    exact ⟨made, h.context pre post⟩
  context_stopped pre post h := by
    obtain ⟨⟨made, h⟩, hstop⟩ := h
    exact ⟨⟨made, h.context pre post⟩, hstop⟩
  standaloneFor w {body} hn := by
    rw [Conversion.standaloneFor, ends_get_bind]
    split
    · next label hl =>
        exact ⟨[], { Workspace.Adds.refl w _ body with
          expands := .single hl, terminals_subset := fun _ ht => nomatch ht }⟩
    · next hnone =>
        split
        · next hlabels => exact ⟨⟨[], .refl w _ body⟩, rfl, hlabels⟩
        · next label hl =>
            exact ⟨_, Workspace.shortens_withVariable hnone (Grammar.hasSymbol_of_freshLabel? hl) hn⟩

/-- With labels left, two nonterminals take the place of a sequence. They can be
unfolded into it through the table, whose owners have the rules it says, and they
derive what the sequence derived in the grammar before. The pair that goes next
stands at its place. -/
theorem liftTerminals_shorten_faithful (hc : g.Closed)
    (hr : ∀ b, .nonterminal b ∈ r → b ∈ g.variableLabels) (hlen : 2 ≤ r.length) :
    Ends ((do shorten (← liftTerminals r) : Conversion Rhs).run g.workspace)
      (fun r' w => (∃ b c, r' = [.nonterminal b, .nonterminal c]) ∧
        Expands w.standalones r' r ∧
        (∀ body label, w.standalones.get? body = some label → w.grammar.rulesOf label = [body]) ∧
        ∀ u, Derives w.grammar r' u ↔ Derives g r u)
      (fun e w => e = .labelsExhausted ∧ w.grammar.freshLabel? = none ∧ g.bounded = true) ∧
    ∀ S q, 2 < q.length → ∃ i x y, Rhs.nextPair? S q = some (i, x, y) ∧
      (q.drop i).take 2 = [x, y] := by
  refine ⟨(keepsRecord.liftTerminals_shorten g.workspace hlen).imp ?_ ?_,
    fun S q hq => Rhs.nextPair?_stands hq⟩
  · intro r' w hend
    obtain ⟨⟨made, h⟩, hpair⟩ := hend
    have hexact := h.evolves.exact (valid_standalones g).exact
    refine ⟨hpair, h.expands, fun body label hl => (hexact body label hl).1, fun u => ?_⟩
    exact (h.expands.derives_iff hexact).trans (h.grammar.derives_iff hc hr)
  · intro e w hend
    obtain ⟨⟨made, h⟩, he, hlabels⟩ := hend
    refine ⟨he, hlabels, ?_⟩
    have hbounded := Grammar.bounded_of_freshLabel? hlabels
    rwa [h.evolves.frame] at hbounded

end Conversion

/-- A letter with a variable of its own, and a variable that stands for that one twice. -/
def Grammar.doubling : Grammar :=
  { blank "S" false with
    terminals := ⟨["b", "a"], by decide⟩
    rules := ⟨[("S", ⟨[[.nonterminal "A", .nonterminal "S", .nonterminal "A"], [.terminal "b"]],
        by decide⟩),
      ("A", .singleton [.terminal "a"]), ("D", .singleton [.nonterminal "A", .nonterminal "A"])],
      by decide⟩ }

/-- `ASAAa` becomes `ASAAA`, then `ASDA`, where `D` is found and not made, then `BDA`
and `CA`. -/
theorem Conversion.liftTerminals_shorten_doubling :
    ∃ r w, r = [.nonterminal "A", .nonterminal "S", .nonterminal "A", .nonterminal "A",
        .terminal "a"] ∧
      (do shorten (← liftTerminals r) : Conversion Rhs).run Grammar.doubling.workspace =
        .ok [.nonterminal "C", .nonterminal "A"] w ∧
      w.standalones.entries.map Prod.snd = ["A", "D", "B", "C"] ∧
      ∀ u, Derives w.grammar [.nonterminal "C", .nonterminal "A"] u ↔
        Derives Grammar.doubling r u := by
  obtain ⟨r, hr⟩ : ∃ r : Rhs, r = [.nonterminal "A", .nonterminal "S", .nonterminal "A",
    .nonterminal "A", .terminal "a"] := ⟨_, rfl⟩
  have hclosed : Grammar.doubling.Closed := by decide
  have hregistered : ∀ b ∈ r.nonterminals, b ∈ Grammar.doubling.variableLabels := by
    rw [hr]
    decide
  have hends := (liftTerminals_shorten_faithful hclosed
    (fun b hb => hregistered b (Rhs.mem_nonterminals.2 hb)) (by rw [hr]; decide)).1
  obtain ⟨w, hrun, hlabels⟩ : ∃ w, (do shorten (← liftTerminals r) : Conversion Rhs).run
      Grammar.doubling.workspace = .ok [.nonterminal "C", .nonterminal "A"] w ∧
        w.standalones.entries.map Prod.snd = ["A", "D", "B", "C"] := by
    rw [hr]
    exact ⟨_, rfl, rfl⟩
  exact ⟨r, w, hr, hrun, hlabels, (hends.of_ok hrun).2.2.2⟩

end ContextFree
