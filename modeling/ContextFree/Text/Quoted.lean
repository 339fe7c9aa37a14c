import ContextFree.Text.Digits
import ContextFree.Text.Printable

/-!
# Quotations

How a message quotes a piece of input so that it stays on one line and shows
what it holds: between apostrophes, or between double quotes when that saves
escaping apostrophes; with the usual short escapes for tab and line ends; and
with numeric escapes for characters that cannot be shown, in the shortest of
three fixed widths.
-/

namespace ContextFree.Text

/-- How one character is written between the given quotation marks. -/
def escapeChar (mark c : Char) : List Char :=
  if c = mark ∨ c = '\\' then ['\\', c]
  else if c = '\n' then ['\\', 'n']
  else if c = '\r' then ['\\', 'r']
  else if c = '\t' then ['\\', 't']
  else if isPrintable c then [c]
  else if c.toNat ≤ 0xFF then '\\' :: 'x' :: hexDigits 2 c.toNat
  else if c.toNat ≤ 0xFFFF then '\\' :: 'u' :: hexDigits 4 c.toNat
  else '\\' :: 'U' :: hexDigits 8 c.toNat

/-- The marks a quotation stands between: apostrophes, unless the text has
apostrophes and no double quotes. -/
def quotationMark (cs : List Char) : Char :=
  if '\'' ∈ cs ∧ '"' ∉ cs then '"' else '\''

/-- A text between quotation marks. -/
def quote (s : String) : String :=
  let mark := quotationMark s.toList
  String.ofList (mark :: s.toList.flatMap (escapeChar mark) ++ [mark])

end ContextFree.Text
