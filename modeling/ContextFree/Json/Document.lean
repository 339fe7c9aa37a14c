import ContextFree.Json.Token

/-!
# Reading a JSON document

The second half of reading JSON: tokens to one value. The tokens are gone through
once, with the arrays and objects that are still open kept on a stack; so the
reader recurses on the tokens and nesting needs no recursion of its own.

A document is one value with nothing but spaces around it. How many arrays and
objects may be open at a time can be limited. A document that opens more is refused
for that, unless it turns out to be malformed before it does.
-/

namespace ContextFree.Json

/-- Why a document has no value. -/
inductive Defect where
  /-- It is not written as JSON is. -/
  | malformed
  /-- Too many arrays and objects are open at a time. -/
  | tooDeep
  deriving DecidableEq

/-- An array or object whose end has not been read. -/
inductive Unfinished where
  /-- An array with its items so far, last first. -/
  | array (items : List Json)
  /-- An object with its fields so far, last first, and the key of the next. -/
  | object (fields : List (String × Json)) (key : String)

mutual

/-- Goes on where a value has to begin. There is room for so many more arrays and
objects to be opened. -/
def readValue (room : Nat) (stack : List Unfinished) : List Token → Except Defect Json
  | .scalar v :: ts => readOn room stack v ts
  | .string codes :: ts => readOn room stack (.text (Text.ofCodes codes)) ts
  | .beginArray :: .endArray :: ts =>
    if room = 0 then .error .tooDeep else readOn room stack (.array []) ts
  | .beginArray :: ts =>
    if room = 0 then .error .tooDeep else readValue (room - 1) (.array [] :: stack) ts
  | .beginObject :: .endObject :: ts =>
    if room = 0 then .error .tooDeep else readOn room stack (.object []) ts
  | .beginObject :: .string key :: .colon :: ts =>
    if room = 0 then .error .tooDeep
    else readValue (room - 1) (.object [] (Text.ofCodes key) :: stack) ts
  | .beginObject :: _ => .error (if room = 0 then .tooDeep else .malformed)
  | _ => .error .malformed

/-- Goes on after a value, which belongs to the innermost unfinished one. -/
def readOn (room : Nat) (stack : List Unfinished) (v : Json) : List Token → Except Defect Json
  | [] => if stack.isEmpty then .ok v else .error .malformed
  | .comma :: .string next :: .colon :: ts =>
    match stack with
    | .object fields key :: stack =>
      readValue room (.object ((key, v) :: fields) (Text.ofCodes next) :: stack) ts
    | _ => .error .malformed
  | .comma :: ts =>
    match stack with
    | .array items :: stack => readValue room (.array (v :: items) :: stack) ts
    | _ => .error .malformed
  | .endArray :: ts =>
    match stack with
    | .array items :: stack => readOn (room + 1) stack (.array (v :: items).reverse) ts
    | _ => .error .malformed
  | .endObject :: ts =>
    match stack with
    | .object fields key :: stack =>
      readOn (room + 1) stack (ofFields ((key, v) :: fields).reverse) ts
    | _ => .error .malformed
  | _ => .error .malformed

end

/-- The value a document holds, with so many arrays and objects open at a time at
most. -/
def read (depth : Nat) (cs : List Char) : Except Defect Json := readValue depth [] (tokens cs)

/-- The value a document holds, however deep it goes. A text opens no more arrays and
objects than it has characters. -/
def ofChars? (cs : List Char) : Option Json := (read cs.length cs).toOption

/-- The value a document holds. -/
def ofText? (text : String) : Option Json := ofChars? text.toList

end ContextFree.Json
