import ContextFree.Decimal.Layout
import ContextFree.OrderedMap
import ContextFree.Text.Quoted

/-!
# JSON values

Requests and structured grammars arrive as JSON. A value keeps whatever an
answer can show: the order of an object's fields, since rules are taken in that
order, and whether a number was written as an integer, since only integers
count as numbers of strings and both are shown in messages as they were written.

`literal` is the text a message uses for a value it refuses.
-/

namespace ContextFree

/-- A JSON value. The reader never produces an object with a repeated key. -/
inductive Json where
  | null
  | bool (b : Bool)
  | integer (n : Int)
  | real (x : Binary64)
  | text (s : String)
  | array (items : List Json)
  | object (fields : List (String × Json))
  deriving Inhabited

namespace Json

/-- An object from fields written one after the other: a repeated key keeps its
first place and takes its last value. -/
def ofFields (fields : List (String × Json)) : Json :=
  .object (OrderedMap.ofEntries fields).entries

/-- The value of a field; a value that is not an object has no fields. -/
def field? (v : Json) (key : String) : Option Json :=
  match v with
  | .object fields => fields.lookup key
  | _ => none

/-- Whether a value stands for "no" where an answer is yes or no: null, false,
the zeros, and the empty text, array and object. -/
def isFalsy : Json → Bool
  | .null => true
  | .bool b => !b
  | .integer n => n == 0
  | .real x => x.isZero
  | .text s => s.isEmpty
  | .array items => items.isEmpty
  | .object fields => fields.isEmpty

/-- The name messages use for the kind of a value. -/
def kindName : Json → String
  | .null => "NoneType"
  | .bool _ => "bool"
  | .integer _ => "int"
  | .real _ => "float"
  | .text _ => "str"
  | .array _ => "list"
  | .object _ => "dict"

mutual

/-- The text messages use for a value, texts in quotation marks. -/
def literal : Json → String
  | .null => "None"
  | .bool b => if b then "True" else "False"
  | .integer n => toString n
  | .real x => x.text
  | .text s => Text.quote s
  | .array items => "[" ++ ", ".intercalate (itemLiterals items) ++ "]"
  | .object fields => "\x7b" ++ ", ".intercalate (fieldLiterals fields) ++ "\x7d"

/-- The texts of the items of an array. -/
def itemLiterals : List Json → List String
  | [] => []
  | v :: vs => v.literal :: itemLiterals vs

/-- The texts of the fields of an object. -/
def fieldLiterals : List (String × Json) → List String
  | [] => []
  | (k, v) :: fs => (Text.quote k ++ ": " ++ v.literal) :: fieldLiterals fs

end

/-- The text messages use for a value that stands between marks of their own: a
text is shown as it is. -/
def shown : Json → String
  | .text s => s
  | v => v.literal

end Json

end ContextFree
