import ContextFree.Json.Document
import ContextFree.Service.Route
import ContextFree.Service.Target
import ContextFree.Text.Capital

/-!
# Requests

A request to the grammar service: what is asked of it, where, and with which
body. The body counts only if it is announced as JSON and is a JSON object;
anything else is the same as an object without fields. The one thing that a body
must not do is to nest too deeply.

Some requests cannot be sent at all, because of their target or because a header
would not stay on its line.
-/

namespace ContextFree.Service

/-- Why a request cannot be sent. -/
inductive RequestError where
  /-- The target names no place. -/
  | target (e : AuthorityError)
  /-- The content type has a line end. -/
  | contentType
  deriving DecidableEq

/-- A request as it is made. -/
structure Request where
  /-- The method, in either case. -/
  method : String
  /-- The target, as it is written. -/
  target : String
  /-- The announced type of the body. -/
  contentType : Option String
  /-- The body, as the text its bytes spell in UTF-8. -/
  body : Option String

/-- Whether a character is padding around a content type. -/
def isPadding (c : Char) : Bool := c == ' ' || c == '\t'

/-- The media type of a content type: what stands before its parameters, without
padding and in small letters. -/
def mediaType (contentType : List Char) : List Char :=
  let kind := contentType.takeWhile (· ≠ ';')
  ((kind.dropWhile isPadding).reverse.dropWhile isPadding).reverse.map Char.toLower

/-- Whether a content type announces JSON, by itself or as what another format is
written in. -/
def isJsonType (contentType : List Char) : Bool :=
  let kind := mediaType contentType
  kind == "application/json".toList ||
    ("application/".toList.isPrefixOf kind && "+json".toList.isSuffixOf kind)

namespace Request

/-- The method in capitals. -/
def verb (r : Request) : String := String.ofList (r.method.toList.flatMap Text.capitals)

/-- Whether only the headers of the answer are asked for. A method in small letters
asks for all of it. -/
def headersOnly (r : Request) : Bool := r.method == "HEAD"

/-- How many arrays and objects a body may have open at a time. -/
def maxDepth : Nat := 978

/-- The code points of a body that is announced as JSON. -/
def codePoints? (r : Request) : Option (List Nat) := do
  let body ← r.body
  let kind ← r.contentType
  if isJsonType kind.toList then Text.codePoints? body.toList else none

/-- The object a request carries; one without fields if it carries none. There is no
telling if its body nests too deeply. Where half a surrogate pair stands alone, the
replacement character is read. -/
def fields? (r : Request) : Option Json :=
  match r.codePoints?.map fun codes => Json.read maxDepth (Text.characters codes) with
  | some (.ok (.object fields)) => some (.object fields)
  | some (.error .tooDeep) => none
  | _ => some (.object [])

/-- Whether nothing had to be replaced in reading the body and the strings in it. -/
def isWhole (r : Request) : Bool :=
  r.codePoints?.all fun codes =>
    Text.isWhole codes && (Json.tokens (Text.characters codes)).all Json.Token.isWhole

/-- The code points of such a request are those of the characters that are read. -/
theorem map_toNat_of_isWhole {r : Request} {codes : List Nat} (h : r.isWhole = true)
    (hcodes : r.codePoints? = some codes) :
    (Text.characters codes).map Char.toNat = codes ∧
      ∀ string, .string string ∈ Json.tokens (Text.characters codes) →
        (Text.characters string).map Char.toNat = string := by
  rw [isWhole, hcodes, Option.all_some, Bool.and_eq_true_iff, List.all_eq_true] at h
  exact ⟨Text.map_toNat_characters h.1, fun string hmem => Text.map_toNat_characters (h.2 _ hmem)⟩

/-- The target a request is sent to, if it can be sent. -/
def sent (r : Request) : Except RequestError Target := do
  let target ← (Target.ofChars r.target.toList).mapError .target
  if r.contentType.any fun kind => kind.toList.any fun c => c == '\r' || c == '\n' then
    throw .contentType
  target.checkShown.mapError .target
  return target

end Request

end ContextFree.Service
