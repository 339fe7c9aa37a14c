import ContextFree.Json.Value
import ContextFree.Text.Encoding
import ContextFree.Text.Digits

/-!
# JSON tokens

The first half of reading JSON: text to tokens. Every token takes at least one
character off the text, so a text has no more tokens than characters. A text that
cannot be cut into tokens has tokens up to the place where that shows, so the other
half can tell what comes before it.

The grammar is the standard's but for two points: the names `NaN`, `Infinity` and
`-Infinity` are numbers, and an integer of more than `maxIntegerDigits` digits is
refused. An escaped surrogate pair is read as the one code point it stands for, and
half a pair as itself.
-/

namespace ContextFree.Json

/-- A punctuation mark, a string, another value that holds no other, or where none of
these can be read. -/
inductive Token where
  | beginArray
  | endArray
  | beginObject
  | endObject
  | colon
  | comma
  /-- A string, by its code points. -/
  | string (codes : List Nat)
  | scalar (v : Json)
  /-- What is no token. Nothing after it is read. -/
  | unreadable
  deriving Inhabited

/-- Whether a token is no string in which half a surrogate pair stands alone. -/
def Token.isWhole : Token → Bool
  | .string codes => Text.isWhole codes
  | _ => true

/-- Whether a character may stand between tokens. -/
def isSpace (c : Char) : Bool := c == ' ' || c == '\t' || c == '\n' || c == '\r'

/-- The character behind a short escape. -/
def shortEscape? : Char → Option Char
  | '"' => some '"'
  | '\\' => some '\\'
  | '/' => some '/'
  | 'b' => some '\x08'
  | 'f' => some '\x0c'
  | 'n' => some '\n'
  | 'r' => some '\r'
  | 't' => some '\t'
  | _ => none

/-- Reads a string up to its closing quote, as code points and, where they were
escaped, halves of surrogate pairs. Control characters have to be escaped. -/
def stringUnits : List Char → Option (List Nat × List Char)
  | [] => none
  | '"' :: cs => some ([], cs)
  | '\\' :: 'u' :: a :: b :: c :: d :: cs => do
    let unit ← Text.hexUnit? a b c d
    let (units, rest) ← stringUnits cs
    return (unit :: units, rest)
  | '\\' :: c :: cs => do
    let e ← shortEscape? c
    let (units, rest) ← stringUnits cs
    return (e.toNat :: units, rest)
  | c :: cs =>
    if c.toNat < 0x20 ∨ c = '\\' then none
    else do
      let (units, rest) ← stringUnits cs
      return (c.toNat :: units, rest)

/-- The longest integer that is read. -/
def maxIntegerDigits : Nat := 4300

/-- The digits a text starts with, and what follows them. -/
def spanDigits (cs : List Char) : List Char × List Char :=
  (cs.takeWhile Char.isDigit, cs.dropWhile Char.isDigit)

/-- The fraction a number goes on with: its digits, and what follows. A point
without digits after it does not belong to the number. -/
def fraction (cs : List Char) : List Char × List Char :=
  match cs with
  | '.' :: r => if (spanDigits r).1.isEmpty then ([], cs) else spanDigits r
  | _ => ([], cs)

/-- The exponent a number goes on with, if it has one, and what follows. -/
def exponent? (cs : List Char) : Option Int × List Char :=
  let signed (negative : Bool) (r : List Char) : Option Int × List Char :=
    let (digits, rest) := spanDigits r
    if digits.isEmpty then (none, cs)
    else (some (if negative then -(Text.decimalValue digits : Int) else Text.decimalValue digits), rest)
  match cs with
  | e :: r =>
    if e = 'e' ∨ e = 'E' then
      match r with
      | '-' :: r => signed true r
      | '+' :: r => signed false r
      | r => signed false r
    else (none, cs)
  | [] => (none, cs)

/-- Reads a number without its sign. A zero is not followed by further digits. -/
def unsigned? (negative : Bool) (cs : List Char) : Option (Json × List Char) :=
  let (whole, rest) :=
    match cs with
    | '0' :: r => (['0'], r)
    | cs => spanDigits cs
  if whole.isEmpty then none
  else
    let (places, rest) := fraction rest
    let (power, rest) := exponent? rest
    if places.isEmpty && power.isNone then
      if maxIntegerDigits < whole.length then none
      else
        let n : Int := Text.decimalValue whole
        some (.integer (if negative then -n else n), rest)
    else
      let coefficient := Text.decimalValue (whole ++ places)
      some (.real (.ofDecimal negative coefficient (power.getD 0 - places.length)), rest)

/-- Reads a number with its sign. -/
def number? : List Char → Option (Json × List Char)
  | '-' :: cs => unsigned? true cs
  | cs => unsigned? false cs

/-- The names of values. -/
def names : List (String × Json) :=
  [("null", .null), ("true", .bool true), ("false", .bool false), ("NaN", .real .nan),
    ("Infinity", .real (.infinite false)), ("-Infinity", .real (.infinite true))]

/-- The name a text starts with, and what follows it. -/
def name? (cs : List Char) : Option (Json × List Char) :=
  names.findSome? fun (name, v) =>
    if name.toList.isPrefixOf cs then some (v, cs.drop name.length) else none

/-- Reads one token. -/
def token? : List Char → Option (Token × List Char)
  | '[' :: cs => some (.beginArray, cs)
  | ']' :: cs => some (.endArray, cs)
  | '\x7b' :: cs => some (.beginObject, cs)
  | '\x7d' :: cs => some (.endObject, cs)
  | ':' :: cs => some (.colon, cs)
  | ',' :: cs => some (.comma, cs)
  | '"' :: cs => (stringUnits cs).map fun (units, rest) =>
      (.string (Text.joinHalves units), rest)
  | cs => ((name? cs).or (number? cs)).map fun (v, rest) => (.scalar v, rest)

/-- The first tokens of a text, no more than the given number. -/
def tokensWithin : Nat → List Char → List Token
  | 0, cs => if cs.all isSpace then [] else [.unreadable]
  | n + 1, cs =>
    match cs.dropWhile isSpace with
    | [] => []
    | cs =>
      match token? cs with
      | some (t, rest) => t :: tokensWithin n rest
      | none => [.unreadable]

/-- The tokens of a text. -/
def tokens (cs : List Char) : List Token := tokensWithin cs.length cs

end ContextFree.Json
