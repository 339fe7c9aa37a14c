import ContextFree.Proofs.Recording
import ContextFree.Reading.Line
import Mathlib.Data.List.TakeWhile

/-!
# The labels that conversion draws

Conversion draws labels for a new start symbol and for the standalone variables it makes,
and what it draws decides what it does next: which standalones there are, which pairs are
replaced, which rules come out twice. Two copies of a grammar, one of them bounded, are
converted in the same steps for as long as the same labels are drawn, and this is for as
long as a letter is free. So the first label that is no letter is where the bounded copy
stops, and the grammar it leaves behind is the one for which that label was drawn.

The two runs are followed together. They go alongside until they part, and once they have
parted nothing is asked of the run without a bound but that it keeps its record.
-/

namespace ContextFree

namespace Draw

variable {d : Draw}

theorem isLetter_of_numbered {n : Nat} (h : d.label = numberedLabel n) : d.isLetter = false := by
  rw [isLetter, h]
  exact Bool.eq_false_iff.2 (mt List.contains_iff_mem.1 (numberedLabel_not_mem_letterLabels n))

theorem isLetter_or_numbered (h : d.grammar.freshLabel? = some d.label) :
    d.isLetter = true ∨ ∃ n, d.label = numberedLabel n := by
  have hself : d.grammar.setBounded d.grammar.bounded = d.grammar := Grammar.setBounded_eq_self rfl
  rcases d.grammar.freshLabel?_setBounded with ⟨label, hletter, hfresh⟩ | ⟨⟨n, hfree⟩, htied⟩
  · have hlabel := hfresh d.grammar.bounded
    rw [hself, h] at hlabel
    cases hlabel
    exact Or.inl (List.contains_iff_mem.2 hletter)
  · cases hbounded : d.grammar.bounded with
    | true =>
        rw [Grammar.setBounded_eq_self hbounded, h] at htied
        cases htied
    | false =>
        rw [Grammar.setBounded_eq_self hbounded, h] at hfree
        exact Or.inr ⟨n, by injection hfree⟩

end Draw

/-- Labels are not bounded, and so far only letters were drawn. -/
structure Record.OnLetters (R : Record) : Prop where
  unbounded : R.grammar.bounded = false
  letters : ∀ d ∈ R.draws, d.isLetter = true

variable {α β : Type}

/-- How a run without a bound ends and how one with a bound does: in the same way as long as
letters are drawn, and otherwise the one with a bound stops at the first label that is no
letter. -/
inductive Alongside : EStateM.Result TransformError Record α →
    EStateM.Result TransformError Record α → Prop where
  | returned {a : α} {R : Record} : R.OnLetters → Alongside (.ok a R) (.ok a (R.setBounded true))
  | stopped {e : TransformError} {R : Record} : e ≠ .labelsExhausted → R.OnLetters →
      Alongside (.error e R) (.error e (R.setBounded true))
  | parted {r : EStateM.Result TransformError Record α} {R : Record} {before after : List Draw}
      {d : Draw} : (finalState r).draws = before ++ d :: after →
      (∀ d ∈ before, d.isLetter = true) → d.isLetter = false →
      R.grammar = d.grammar.setBounded true → R.draws = before.map (Draw.setBounded true) →
      Alongside r (.error .labelsExhausted R)

namespace Alongside

variable {r r' : EStateM.Result TransformError Record α} {d : Draw}

theorem draws_eq (h : Alongside r r') : (finalState r').draws =
    ((finalState r).draws.takeWhile Draw.isLetter).map (Draw.setBounded true) := by
  have hall : ∀ {R : Record}, R.OnLetters → (R.setBounded true).draws =
      (R.draws.takeWhile Draw.isLetter).map (Draw.setBounded true) := by
    intro R hR
    rw [List.takeWhile_eq_self_iff.2 hR.letters]
    rfl
  cases h with
  | returned hR => exact hall hR
  | stopped _ hR => exact hall hR
  | parted hdraws hbefore hd _ hrecord =>
      rw [hdraws, List.takeWhile_append_of_pos hbefore, List.takeWhile_cons_of_neg (by simp [hd]),
        List.append_nil]
      exact hrecord

theorem of_letters (h : Alongside r r') (hall : ∀ d ∈ (finalState r).draws, d.isLetter = true) :
    r' = mapState (Record.setBounded true) r ∧ ∀ R, r' ≠ .error .labelsExhausted R := by
  cases h with
  | returned _ => exact ⟨rfl, nofun⟩
  | stopped he _ => exact ⟨rfl, fun _ h => he (by injection h)⟩
  | parted hdraws _ hd _ _ =>
      have hletter := hall _ (hdraws ▸ List.mem_append_right _ List.mem_cons_self)
      rw [hd] at hletter
      cases hletter

theorem of_find? (h : Alongside r r')
    (hfind : (finalState r).draws.find? (fun d => !d.isLetter) = some d) :
    ∃ R, r' = .error .labelsExhausted R ∧ R.grammar = d.grammar.setBounded true := by
  have hno : d.isLetter ≠ true := by simpa using List.find?_some hfind
  have hmem := List.mem_of_find?_eq_some hfind
  cases h with
  | returned hR => exact absurd (hR.letters d hmem) hno
  | stopped _ hR => exact absurd (hR.letters d hmem) hno
  | @parted _ _ before _ _ hdraws hbefore hd hgrammar _ =>
      have hnone : before.find? (fun d => !d.isLetter) = none :=
        List.find?_eq_none.2 fun d hd => by simp [hbefore d hd]
      rw [hdraws, List.find?_append, hnone, Option.none_or,
        List.find?_cons_of_pos (by simp [hd])] at hfind
      cases hfind
      exact ⟨_, rfl, hgrammar⟩

end Alongside

namespace Recording

/-- The program adds to the record what it draws, and a run with a bound goes alongside. -/
structure KeepsPace (x : Recording α) : Prop where
  adds (R : Record) : ∃ drawn, (finalState (x.run R)).draws = R.draws ++ drawn ∧
    ∀ d ∈ drawn, d.grammar.freshLabel? = some d.label
  alongside {R : Record} : R.OnLetters → Alongside (x.run R) (x.run (R.setBounded true))

variable {x : Recording α} {x' : α → Recording β}

theorem keepsPace_pure (a : α) : KeepsPace (pure a) where
  adds _ := ⟨[], (List.append_nil _).symm, nofun⟩
  alongside hR := .returned hR

theorem KeepsPace.bind (hx : KeepsPace x) (hx' : ∀ a, KeepsPace (x' a)) : KeepsPace (x >>= x') where
  adds R := by
    obtain ⟨drawn, hdraws, hdrawn⟩ := hx.adds R
    rw [EStateM.run_bind]
    generalize x.run R = r at hdraws ⊢
    cases r with
    | error e R' => exact ⟨drawn, hdraws, hdrawn⟩
    | ok a R' =>
        obtain ⟨drawn', hdraws', hdrawn'⟩ := (hx' a).adds R'
        refine ⟨drawn ++ drawn', ?_, List.forall_mem_append.2 ⟨hdrawn, hdrawn'⟩⟩
        rw [← List.append_assoc, ← hdraws]
        exact hdraws'
  alongside {R} hR := by
    have h := hx.alongside hR
    rw [EStateM.run_bind, EStateM.run_bind]
    generalize x.run R = r, x.run (R.setBounded true) = r' at h
    cases h with
    | returned hR' => exact (hx' _).alongside hR'
    | stopped he hR' => exact .stopped he hR'
    | @parted _ _ before after d hdraws hbefore hd hgrammar hrecord =>
        cases r with
        | error e R' => exact .parted hdraws hbefore hd hgrammar hrecord
        | ok a R' =>
            -- the run without a bound goes on, and what it drew stays in the record
            obtain ⟨drawn, hadds, -⟩ := (hx' a).adds R'
            rw [show R'.draws = before ++ d :: after from hdraws, List.append_assoc,
              List.cons_append] at hadds
            exact .parted hadds hbefore hd hgrammar hrecord

theorem KeepsPace.mapM {items : List α} (h : ∀ a, KeepsPace (x' a)) :
    KeepsPace (items.mapM x') := by
  induction items with
  | nil => exact keepsPace_pure []
  | cons a items ih =>
      rw [List.mapM_cons]
      exact (h a).bind fun b => ih.bind fun bs => keepsPace_pure (b :: bs)

theorem KeepsPace.forM {items : List α} {x' : α → Recording Unit} (h : ∀ a, KeepsPace (x' a)) :
    KeepsPace (items.forM x') := by
  induction items with
  | nil => exact keepsPace_pure ()
  | cons a items ih =>
      rw [List.forM_eq_forM, List.forM_cons]
      exact (h a).bind fun _ => ih

/-- A change that does not look at the bound. -/
theorem keepsPace_modify {f : Record → Record}
    (hf : ∀ R, f (R.setBounded true) = (f R).setBounded true)
    (hbounded : ∀ R, (f R).grammar.bounded = R.grammar.bounded)
    (hdraws : ∀ R, (f R).draws = R.draws) :
    KeepsPace (modify f) where
  adds R := ⟨[], (hdraws R).trans (List.append_nil _).symm, nofun⟩
  alongside {R} hR := by
    have hR' : (f R).OnLetters :=
      ⟨(hbounded R).trans hR.unbounded, fun d hd => hR.letters d (hdraws R ▸ hd)⟩
    show Alongside (.ok () (f R)) (.ok () (f (R.setBounded true)))
    rw [hf]
    exact .returned hR'

/-- What a program does with the state it reads may not depend on the bound. -/
theorem KeepsPace.get_bind {y : Record → Recording α} (hy : ∀ R, y (R.setBounded true) = y R)
    (h : ∀ R, KeepsPace (y R)) : KeepsPace (get >>= y) where
  adds R := (h R).adds R
  alongside {R} hR := by
    show Alongside ((y R).run R) ((y (R.setBounded true)).run (R.setBounded true))
    rw [hy]
    exact (h R).alongside hR

theorem keepsPace_transform {x : Transform α} (hx : x.IgnoresBound) : KeepsPace (transform x) where
  adds R := by
    rw [transform_run]
    cases x.run R.grammar <;> exact ⟨[], (List.append_nil _).symm, nofun⟩
  alongside {R} hR := by
    have hbounded := (hx.bounded_eq R.grammar).trans hR.unbounded
    have hends := hx.not_exhausted R.grammar
    rw [transform_run, transform_run, show x.run (R.setBounded true).grammar = _ from
      (hx.run_setBounded true R.grammar).symm]
    generalize x.run R.grammar = r at hbounded hends ⊢
    cases r with
    | ok a g => exact .returned ⟨hbounded, hR.letters⟩
    | error e g => exact .stopped hends ⟨hbounded, hR.letters⟩

theorem keepsPace_freshLabel : KeepsPace freshLabel where
  adds R := by
    rw [freshLabel_run]
    cases h : R.grammar.freshLabel? with
    | some label => exact ⟨[⟨label, R.grammar⟩], rfl, List.forall_mem_singleton.2 h⟩
    | none => exact ⟨[], (List.append_nil _).symm, nofun⟩
  alongside {R} hR := by
    have hself := Grammar.setBounded_eq_self hR.unbounded
    rw [freshLabel_run, freshLabel_run,
      show (R.setBounded true).grammar = R.grammar.setBounded true from rfl]
    rcases R.grammar.freshLabel?_setBounded with ⟨label, hletter, hfresh⟩ | ⟨⟨n, hfree⟩, htied⟩
    · have hfree := hfresh false
      rw [hself] at hfree
      rw [hfree, hfresh true]
      dsimp only
      rw [R.note_setBounded]
      refine .returned ⟨hR.unbounded, List.forall_mem_append.2 ⟨hR.letters, ?_⟩⟩
      exact List.forall_mem_singleton.2 (List.contains_iff_mem.2 hletter)
    · rw [hself] at hfree
      rw [hfree, htied]
      exact .parted rfl hR.letters (Draw.isLetter_of_numbered rfl) rfl rfl

theorem keepsPace_isolateStart (newStart : Option String) : KeepsPace (isolateStart newStart) := by
  have hstart := fun label => keepsPace_transform (Transform.replaceStart_ignoresBound label)
  refine KeepsPace.get_bind (fun _ => rfl) fun R => ?_
  cases R.grammar.startIsMentioned with
  | false => exact keepsPace_pure ()
  | true =>
      cases newStart.filter (!·.isEmpty) with
      | some label => exact hstart label
      | none => exact keepsPace_freshLabel.bind hstart

theorem keepsPace_standaloneFor (rhs : Rhs) : KeepsPace (standaloneFor rhs) := by
  refine KeepsPace.get_bind (fun _ => rfl) fun R => ?_
  cases R.standalones.get? rhs with
  | some label => exact keepsPace_pure label
  | none =>
      refine keepsPace_freshLabel.bind fun label => KeepsPace.bind ?_ fun _ => keepsPace_pure label
      exact keepsPace_modify (fun _ => rfl) (fun _ => rfl) fun _ => rfl

theorem keepsPace_liftTerminals (rhs : Rhs) : KeepsPace (liftTerminals rhs) := by
  refine KeepsPace.mapM fun s => ?_
  cases s with
  | terminal a => exact (keepsPace_standaloneFor [.terminal a]).bind fun _ => keepsPace_pure _
  | nonterminal a => exact keepsPace_pure _

theorem keepsPace_replacePairs (n : Nat) (rhs : Rhs) : KeepsPace (replacePairs n rhs) := by
  induction n generalizing rhs with
  | zero => exact keepsPace_pure rhs
  | succ n ih =>
      refine KeepsPace.get_bind (fun _ => rfl) fun R => ?_
      cases rhs.nextPair? R.standalones with
      | none => exact keepsPace_pure rhs
      | some found =>
          obtain ⟨index, a, b⟩ := found
          exact (keepsPace_standaloneFor [a, b]).bind fun label => ih _

theorem keepsPace_convertProduction (p : Production) : KeepsPace (convertProduction p) := by
  rw [convertProduction]
  cases p.rhs.isNormal with
  | true => exact keepsPace_pure ()
  | false =>
      refine (keepsPace_liftTerminals p.rhs).bind fun rhs =>
        (keepsPace_replacePairs (rhs.length - 2) rhs).bind fun rhs' => ?_
      exact keepsPace_modify (fun _ => rfl) (fun _ => rfl) fun _ => rfl

theorem keepsPace_convertAll : KeepsPace convertAll :=
  KeepsPace.get_bind (fun _ => rfl) fun _ => KeepsPace.forM keepsPace_convertProduction

theorem keepsPace_toNormalForm (newStart : Option String) (limit : Int) :
    KeepsPace (toNormalForm newStart limit) := by
  refine (keepsPace_isolateStart newStart).bind fun _ =>
    (keepsPace_transform (Transform.simplify_ignoresBound limit)).bind fun _ =>
      KeepsPace.bind ?_ fun _ => keepsPace_convertAll
  exact keepsPace_modify (fun _ => rfl) (fun _ => rfl) fun _ => rfl

end Recording

/-! ## Two copies of a grammar -/

namespace Grammar

/-- The record that conversion starts with. -/
def record (g : Grammar) : Record := ⟨g.workspace, []⟩

/-- The labels that are drawn for a grammar while it is brought into normal form. -/
def draws (newStart : Option String) (limit : Int) (g : Grammar) : List Draw :=
  (finalState ((Recording.toNormalForm newStart limit).run g.record)).draws

end Grammar

namespace Transform

/-- A copy of a grammar with bounded labels is converted as a copy without the bound is, for as
long as that one draws letters. It is stopped for want of labels exactly if a numbered label is
drawn for the other, and what it leaves is the grammar for which the first one is. -/
theorem toNormalForm_bounded (newStart : Option String) (limit : Int) (g : Grammar) :
    let free := g.setBounded false
    let tied := g.setBounded true
    let drawn := free.draws newStart limit
    (∀ h : Grammar, mapState (·.grammar) ((Recording.toNormalForm newStart limit).run h.record) =
      (toNormalForm newStart limit).run h) ∧
    (∀ d ∈ drawn, d.grammar.freshLabel? = some d.label ∧
      (d.isLetter = true ∨ ∃ n, d.label = numberedLabel n)) ∧
    tied.draws newStart limit = (drawn.takeWhile Draw.isLetter).map (Draw.setBounded true) ∧
    ((∀ d ∈ drawn, d.isLetter = true) → (toNormalForm newStart limit).run tied =
      mapState (Grammar.setBounded true) ((toNormalForm newStart limit).run free)) ∧
    ((∃ h, (toNormalForm newStart limit).run tied = .error .labelsExhausted h) ↔
      ∃ d ∈ drawn, ∃ n, d.label = numberedLabel n) ∧
    ∀ d, drawn.find? (fun d => !d.isLetter) = some d →
      (toNormalForm newStart limit).run tied =
        .error .labelsExhausted (d.grammar.setBounded true) := by
  intro free tied drawn
  have hpace := Recording.keepsPace_toNormalForm newStart limit
  have halong : Alongside ((Recording.toNormalForm newStart limit).run free.record)
      ((Recording.toNormalForm newStart limit).run tied.record) :=
    hpace.alongside (R := free.record) ⟨rfl, nofun⟩
  have hruns : ∀ h : Grammar,
      mapState (·.grammar) ((Recording.toNormalForm newStart limit).run h.record) =
        (toNormalForm newStart limit).run h :=
    fun h => Recording.toNormalForm_runsAs newStart limit h.record
  have hdrawn : ∀ d ∈ drawn, d.grammar.freshLabel? = some d.label := by
    obtain ⟨added, hadds, hadded⟩ := hpace.adds free.record
    rw [show drawn = added from hadds]
    exact hadded
  have hfirst : ∀ d, drawn.find? (fun d => !d.isLetter) = some d →
      (toNormalForm newStart limit).run tied =
        .error .labelsExhausted (d.grammar.setBounded true) := by
    intro d hd
    obtain ⟨R, hR, hgrammar⟩ := halong.of_find? hd
    rw [← hruns, hR, ← hgrammar]
    rfl
  refine ⟨hruns, fun d hd => ⟨hdrawn d hd, Draw.isLetter_or_numbered (hdrawn d hd)⟩,
    halong.draws_eq, ?_, ?_, hfirst⟩
  · intro hall
    rw [← hruns, ← hruns, (halong.of_letters hall).1, mapState_mapState, mapState_mapState]
    rfl
  · constructor
    · rintro ⟨h, hexhausted⟩
      by_contra hnone
      have hall : ∀ d ∈ drawn, d.isLetter = true := fun d hd =>
        (Draw.isLetter_or_numbered (hdrawn d hd)).resolve_right fun hn => hnone ⟨d, hd, hn⟩
      obtain ⟨R, hR⟩ := exists_of_mapState_eq_error ((hruns tied).trans hexhausted)
      exact (halong.of_letters hall).2 R hR
    · rintro ⟨d, hd, n, hn⟩
      obtain ⟨first, hfind⟩ : ∃ first, drawn.find? (fun d => !d.isLetter) = some first :=
        Option.isSome_iff_exists.1
          (List.find?_isSome.2 ⟨d, hd, by simp [Draw.isLetter_of_numbered hn]⟩)
      exact ⟨_, hfirst first hfind⟩

/-- With all letters in use, even the new start symbol gets a numbered label. -/
example : (Grammar.ofText .compact false none "S -> SABCDEFGHIJKLMNOPQRTUVWXYZ | a").toOption.map
    (fun g => (g.draws none 10).map Draw.label) = some ["X1"] := by
  decide +kernel

end Transform

end ContextFree
