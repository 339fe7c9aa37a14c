import ContextFree.Json.Value

/-!
# Printing a JSON document

Answers are printed on one line without spaces. Only what the format demands is
escaped: quotation marks, backslashes and control characters.
-/

namespace ContextFree.Json

/-- How a character is written inside a string. -/
def writeChar (c : Char) : List Char :=
  if c = '"' ∨ c = '\\' then ['\\', c]
  else if c.toNat < 0x20 ∨ c.toNat = 0x7F then '\\' :: 'u' :: Text.hexDigits 4 c.toNat
  else [c]

/-- A text as a JSON string. -/
def writeString (s : String) : String :=
  String.ofList ('"' :: s.toList.flatMap writeChar ++ ['"'])

mutual

/-- A value as a document, without spaces. -/
def write : Json → String
  | .null => "null"
  | .bool b => if b then "true" else "false"
  | .integer n => toString n
  | .real x => x.text
  | .text s => writeString s
  | .array items => "[" ++ ",".intercalate (writeItems items) ++ "]"
  | .object fields => "\x7b" ++ ",".intercalate (writeFields fields) ++ "\x7d"

/-- The items of an array, each written out. -/
def writeItems : List Json → List String
  | [] => []
  | v :: vs => v.write :: writeItems vs

/-- The fields of an object, each written out. -/
def writeFields : List (String × Json) → List String
  | [] => []
  | (k, v) :: fs => (writeString k ++ ":" ++ v.write) :: writeFields fs

end

end ContextFree.Json
