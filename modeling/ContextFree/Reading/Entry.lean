import ContextFree.Grammar.Basic
import ContextFree.Reading.Error
import ContextFree.Reading.Spelling

/-!
# Structured grammars

A grammar given as JSON is a start symbol and entries, each with a left and a
right-hand side: the fields of an object, or an array of objects that name both.
A right-hand side may be one text with bars, an array of such texts, or an array
of arrays of labels.

The start symbol is registered first, wherever its entry stands.
-/

namespace ContextFree

/-- The trimmed label of a left-hand side. -/
def readLeftSide (spelling : Spelling) (value : Json) : Except ReadError String :=
  match value with
  | .text s =>
    let label := Text.trim s.toList
    if s.isEmpty then .error (.invalidLeftSide value)
    else if spelling.isLeftSide label then .ok (String.ofList label)
    else .error (.malformedVariable (String.ofList label))
  | value => .error (.invalidLeftSide value)

/-- The items of an array that holds arrays only. -/
def arrays? (items : List Json) : Option (List (List Json)) :=
  items.mapM fun
    | .array vs => some vs
    | _ => none

/-- The items of an array that holds texts only. -/
def texts? (items : List Json) : Option (List String) :=
  items.mapM fun
    | .text s => some s
    | _ => none

/-- The labels of an alternative that is given as an array: its texts, trimmed,
without those that are blank. -/
def labelsOfItems (items : List Json) : List String :=
  items.filterMap fun
    | .text s =>
      let label := Text.trim s.toList
      if label.isEmpty then none else some (String.ofList label)
    | _ => none

/-- The alternatives of a right-hand side, each as its labels. -/
def readRightSide (spelling : Spelling) (lhs : String) (value : Json) :
    Except ReadError (List (List String)) :=
  match value with
  | .text s => .ok (spelling.alternatives s)
  | .array [] => .ok []
  | .array items =>
    match arrays? items, texts? items with
    | some rules, _ => .ok (rules.map labelsOfItems)
    | none, some texts => .ok (texts.flatMap spelling.alternatives)
    | none, none => .error (.unsupportedRightSide lhs value)
  | value => .error (.unsupportedRightSide lhs value)

/-- The entries of a structured grammar, as left and right-hand sides. A side
that an entry does not name is null. -/
def entriesOf (productions : Json) : Except ReadError (List (Json × Json)) :=
  match productions with
  | .object fields => .ok (fields.map fun (k, v) => (.text k, v))
  | .array items => items.mapM fun item =>
    match item with
    | .object _ => .ok ((item.field? "lhs").getD .null, (item.field? "rhs").getD .null)
    | _ => .error .malformedEntry
  | _ => .error .unsupportedProductions

/-- The label and the alternatives of one entry. -/
def readEntry (spelling : Spelling) (entry : Json × Json) :
    Except ReadError (String × List (List String)) := do
  let label ← readLeftSide spelling entry.1
  return (label, ← readRightSide spelling label entry.2)

/-- Reads a structured grammar. -/
def Grammar.ofEntries (spelling : Spelling) (bounded : Bool) (start productions : Json) :
    Except ReadError Grammar := do
  let .text s := start | throw .emptyStart
  if s.isEmpty then throw .emptyStart
  let start ← readLeftSide spelling start
  let entries ← entriesOf productions
  if entries.isEmpty then throw .noRules
  let rules ← entries.mapM (readEntry spelling)
  if (rules.map Prod.fst).contains start then
    return rules.foldl (fun g r => g.load r.1 r.2) ((Grammar.blank start bounded).addVariable start)
  else throw (.startWithoutRules (.text start))

end ContextFree
