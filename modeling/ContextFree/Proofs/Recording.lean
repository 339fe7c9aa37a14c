import ContextFree.NormalForm.Conversion
import ContextFree.Proofs.LabelBound

/-!
# Conversion with a record

Which labels are drawn while a grammar is brought into normal form can be seen neither from
the grammar at the end nor from the way a run ended. So the programs are given a record of the
labels drawn and of the grammars they were drawn for. The record is written in one place,
nothing reads it, and without it the programs are the ones they were.
-/

namespace ContextFree

/-- A fresh label, and the grammar it was drawn for. -/
structure Draw where
  label : String
  grammar : Grammar

namespace Draw

/-- The label is a letter. -/
def isLetter (d : Draw) : Bool := letterLabels.contains d.label

/-- The same draw for a grammar with another bound. -/
def setBounded (bounded : Bool) (d : Draw) : Draw :=
  { d with grammar := d.grammar.setBounded bounded }

end Draw

/-- A workspace, and what was drawn so far. -/
structure Record extends Workspace where
  draws : List Draw

namespace Record

/-- The record with one more label. -/
def note (R : Record) (label : String) : Record :=
  { R with draws := R.draws ++ [⟨label, R.grammar⟩] }

/-- The same record for a grammar with another bound. -/
def setBounded (bounded : Bool) (R : Record) : Record :=
  { R with
    grammar := R.grammar.setBounded bounded
    draws := R.draws.map (Draw.setBounded bounded) }

theorem note_setBounded (R : Record) (label : String) (bounded : Bool) :
    (R.setBounded bounded).note label = (R.note label).setBounded bounded := by
  simp [note, setBounded, Draw.setBounded]

end Record

/-- A program that changes a grammar and keeps a record of the labels it draws. -/
abbrev Recording (α : Type) := EStateM TransformError Record α

/-! ## The programs -/

namespace Recording

variable {α β : Type}

/-- Changes the grammar by a program that draws nothing. -/
def transform (x : Transform α) : Recording α := fun R =>
  match x R.grammar with
  | .ok a g => .ok a { R with grammar := g }
  | .error e g => .error e { R with grammar := g }

/-- Draws the label that comes next. -/
def freshLabel : Recording String := do
  let R ← get
  match R.grammar.freshLabel? with
  | some label =>
    set (R.note label)
    return label
  | none => throw .labelsExhausted

/-- Replaces the start symbol if it stands in some rule. -/
def isolateStart (newStart : Option String) : Recording Unit := do
  if (← get).grammar.startIsMentioned then
    match newStart.filter (!·.isEmpty) with
    | some label => transform (Transform.replaceStart label)
    | none => transform (Transform.replaceStart (← freshLabel))

/-- The standalone variable of a right-hand side, made if there is none. -/
def standaloneFor (rhs : Rhs) : Recording String := do
  match (← get).standalones.get? rhs with
  | some label => return label
  | none =>
    let label ← freshLabel
    modify fun R => { R with
      grammar := (R.grammar.addVariable label).addRule label rhs
      standalones := R.standalones.insertNew rhs label }
    return label

/-- Puts standalone variables in the place of all terminals. -/
def liftTerminals (rhs : Rhs) : Recording Rhs :=
  rhs.mapM fun
    | .terminal a => return .nonterminal (← standaloneFor [.terminal a])
    | .nonterminal a => return .nonterminal a

/-- Replaces pairs of neighbours, as many as given. -/
def replacePairs : Nat → Rhs → Recording Rhs
  | 0, rhs => return rhs
  | n + 1, rhs => do
    match rhs.nextPair? (← get).standalones with
    | none => return rhs
    | some (index, a, b) =>
      let label ← standaloneFor [a, b]
      replacePairs n (rhs.replacePair index (.nonterminal label))

/-- Replaces pairs of neighbours until at most two symbols are left. -/
def shorten (rhs : Rhs) : Recording Rhs := replacePairs (rhs.length - 2) rhs

/-- Brings one rule into form. -/
def convertProduction (p : Production) : Recording Unit := do
  if !p.rhs.isNormal then
    let rhs ← shorten (← liftTerminals p.rhs)
    modify fun R => { R with grammar := R.grammar.modifyRules p.lhs (·.replace p.rhs rhs) }

/-- Brings every rule into form. -/
def convertAll : Recording Unit := do
  (← get).grammar.productions.forM convertProduction

/-- Brings the grammar into normal form. -/
def toNormalForm (newStart : Option String) (limit : Int) : Recording Unit := do
  isolateStart newStart
  transform (Transform.simplify limit)
  modify fun R => { R with standalones := R.grammar.standalones }
  convertAll

/-! ## Without the record -/

theorem transform_run (x : Transform α) (R : Record) :
    (transform x).run R = match x.run R.grammar with
      | .ok a g => .ok a { R with grammar := g }
      | .error e g => .error e { R with grammar := g } := rfl

theorem transform_runsAs (x : Transform α) : RunsAs (·.grammar) (transform x) x := by
  intro R
  rw [transform_run]
  cases x.run R.grammar <;> rfl

theorem freshLabel_run (R : Record) :
    freshLabel.run R = match R.grammar.freshLabel? with
      | some label => .ok label (R.note label)
      | none => .error .labelsExhausted R := by
  unfold freshLabel
  rw [EStateM.run_bind, EStateM.run_get]
  dsimp only
  split <;> rfl

theorem freshLabel_runsAs : RunsAs (·.grammar) freshLabel Transform.freshLabel := by
  intro R
  rw [freshLabel_run, Transform.freshLabel, EStateM.run_bind, EStateM.run_get]
  dsimp only
  cases R.grammar.freshLabel? <;> rfl

theorem isolateStart_runsAs (newStart : Option String) :
    RunsAs (·.grammar) (isolateStart newStart) (Transform.isolateStart newStart) := by
  have hstart := fun label => transform_runsAs (Transform.replaceStart label)
  refine RunsAs.get_bind fun R => ?_
  cases R.grammar.startIsMentioned with
  | false => exact runsAs_pure _ ()
  | true =>
      cases newStart.filter (!·.isEmpty) with
      | some label => exact hstart label
      | none => exact freshLabel_runsAs.bind hstart

theorem standaloneFor_runsAs (rhs : Rhs) :
    RunsAs Record.toWorkspace (standaloneFor rhs) (Conversion.standaloneFor rhs) := by
  intro R
  rw [standaloneFor, Conversion.standaloneFor, EStateM.run_bind, EStateM.run_bind, EStateM.run_get,
    EStateM.run_get]
  dsimp only
  cases R.standalones.get? rhs with
  | some label => rfl
  | none =>
      dsimp only
      rw [EStateM.run_bind, freshLabel_run]
      cases R.grammar.freshLabel? <;> rfl

theorem liftTerminals_runsAs (rhs : Rhs) :
    RunsAs Record.toWorkspace (liftTerminals rhs) (Conversion.liftTerminals rhs) := by
  refine RunsAs.mapM fun s => ?_
  cases s with
  | terminal a => exact (standaloneFor_runsAs [.terminal a]).bind fun label => runsAs_pure _ _
  | nonterminal a => exact runsAs_pure _ _

theorem replacePairs_runsAs (n : Nat) (rhs : Rhs) :
    RunsAs Record.toWorkspace (replacePairs n rhs) (Conversion.replacePairs n rhs) := by
  induction n generalizing rhs with
  | zero => exact runsAs_pure _ _
  | succ n ih =>
      refine RunsAs.get_bind fun R => ?_
      cases rhs.nextPair? R.standalones with
      | none => exact runsAs_pure _ rhs
      | some found =>
          obtain ⟨index, a, b⟩ := found
          exact (standaloneFor_runsAs [a, b]).bind fun label => ih _

theorem convertProduction_runsAs (p : Production) :
    RunsAs Record.toWorkspace (convertProduction p) (Conversion.convertProduction p) := by
  rw [convertProduction, Conversion.convertProduction]
  cases p.rhs.isNormal with
  | true => exact runsAs_pure _ _
  | false =>
      exact (liftTerminals_runsAs p.rhs).bind fun rhs =>
        (replacePairs_runsAs (rhs.length - 2) rhs).bind fun _ _ => rfl

theorem convertAll_runsAs : RunsAs Record.toWorkspace convertAll Conversion.convertAll :=
  RunsAs.get_bind fun _ => RunsAs.forM convertProduction_runsAs

theorem toTransform_run (x : Conversion α) (g : Grammar) :
    x.toTransform.run g = mapState (·.grammar) (x.run g.workspace) := by
  rw [EStateM.run, EStateM.run]
  unfold Conversion.toTransform
  cases x g.workspace <;> rfl

/-- The record is no more than a record. -/
theorem toNormalForm_runsAs (newStart : Option String) (limit : Int) :
    RunsAs (·.grammar) (toNormalForm newStart limit) (Transform.toNormalForm newStart limit) := by
  refine (isolateStart_runsAs newStart).bind fun _ =>
    (transform_runsAs (Transform.simplify limit)).bind fun _ => ?_
  intro R
  have hall := convertAll_runsAs { R with standalones := R.grammar.standalones }
  rw [toTransform_run]
  show mapState _ (convertAll.run { R with standalones := R.grammar.standalones }) =
    mapState _ (Conversion.convertAll.run R.grammar.workspace)
  rw [← show _ = Conversion.convertAll.run R.grammar.workspace from hall, mapState_mapState]

end Recording

end ContextFree
