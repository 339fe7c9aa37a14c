import ContextFree.Json.Value

/-!
# Why a grammar cannot be read

Every cause keeps what its message shows, so that the wording stays in one place
and the readers only say what went wrong.
-/

namespace ContextFree

/-- Why grammar text or a structured grammar is refused. -/
inductive ReadError where
  /-- There is no rule. -/
  | noRules
  /-- The left-hand side is not a text, or is empty. -/
  | invalidLeftSide (value : Json)
  /-- The left-hand side is a text that names no variable. -/
  | malformedVariable (label : String)
  /-- The right-hand side has none of the known shapes. -/
  | unsupportedRightSide (lhs : String) (value : Json)
  /-- A line is not a rule. -/
  | malformedLine (number : Nat) (line : String)
  /-- The start symbol is on no left-hand side. -/
  | startWithoutRules (start : Json)
  /-- The start symbol of a structured grammar is missing or not a text. -/
  | emptyStart
  /-- An entry of a structured grammar is not an object. -/
  | malformedEntry
  /-- The rules of a structured grammar are neither an object nor an array. -/
  | unsupportedProductions
  deriving Inhabited

/-- The wording of an error. -/
def ReadError.message : ReadError → String
  | .noRules => "No production rules defined. Add at least one rule."
  | .invalidLeftSide value => "Invalid LHS value: " ++ value.literal
  | .malformedVariable label =>
    "Invalid variable format on left-hand side: '" ++ label ++
      "'. Variables must start with an uppercase letter."
  | .unsupportedRightSide lhs value => "Unsupported RHS for '" ++ lhs ++ "': " ++ value.kindName
  | .malformedLine number line =>
    "Line " ++ toString number ++ ": expected 'A -> ...', got " ++ Text.quote line
  | .startWithoutRules start => "Start variable '" ++ start.shown ++ "' has no rules."
  | .emptyStart => "Start variable must be a non-empty string."
  | .malformedEntry => "Each production entry must be an object/dict with 'lhs' and 'rhs'."
  | .unsupportedProductions =>
    "Unsupported productions type. Provide a dict or a list of production entries."

end ContextFree
