import ContextFree.Service.Reference
import ContextFree.Text.Percent

/-!
# Targets

What a request is addressed to. A target is written as a reference and read three
times: the place is taken off it, then off the path that is left, and the path that
is left after that is put into plain form. So a target leads to the same path
whether a place stands before it once, twice or not at all.

The place that is taken off first is where the request is sent to. Its plain form has
to be an authority again, and so has what people are shown of it; and the service has
to be able to go by its name, or it answers for no path at all.

Escapes are resolved last. An escaped slash therefore begins no place but does cut
the path, and an escaped question mark begins no query.
-/

namespace ContextFree.Service

/-- What a request is addressed to. -/
structure Target where
  /-- Whether a lasting connection is asked for and not an answer. -/
  isSocket : Bool
  /-- The place in plain form. -/
  place : List Char
  /-- The path without escapes. It starts with one slash, unless it is empty. -/
  path : List Char

namespace Target

/-- The schemes of lasting connections. -/
def socketSchemes : List (List Char) := ["ws".toList, "wss".toList]

/-- Whether the service can go by the name of the place, which is all that stands
before its number, with the user. -/
def isNamed (t : Target) : Bool := (Host.asciiName (t.place.takeWhile (· ≠ ':'))).isOk

/-- Looks at what people are shown of the place. -/
def checkShown (t : Target) : Except AuthorityError Unit := do
  Authority.check (← Authority.shown t.place)

/-- Reads a target. -/
def ofChars (cs : List Char) : Except AuthorityError Target := do
  let outer ← Reference.ofChars cs
  let inner ← Reference.ofChars outer.path
  let path := Text.unescape (← (← Reference.ofChars inner.path).plain)
  let place ← Authority.plain (outer.authority.getD [])
  Authority.check place
  return {
    isSocket := outer.scheme.any socketSchemes.contains
    place := place
    path := if path.isEmpty then [] else '/' :: path.dropWhile (· == '/') }

end Target

end ContextFree.Service
