import ContextFree.Service.Authority

/-!
# References

A reference is a path and, before it, the place where the path is meant: a scheme,
an authority, both or neither. A query or a fragment may follow and is no part of
it. Every text is a reference, if only one with an odd path, unless it has an
authority that would be taken for something else.
-/

namespace ContextFree.Service

/-- A reference without its query and fragment. -/
structure Reference where
  /-- The scheme in small letters, without its colon. -/
  scheme : Option (List Char)
  /-- What stands between two slashes and the path. -/
  authority : Option (List Char)
  /-- The path, as it is written. -/
  path : List Char

namespace Reference

/-- Whether a character may stand in a scheme. -/
def isSchemeChar (c : Char) : Bool := c.isAlphanum || c == '+' || c == '-' || c == '.'

/-- The scheme a text starts with, if it does, and what follows its colon. -/
def splitScheme (cs : List Char) : Option (List Char) × List Char :=
  let name := cs.takeWhile (· ≠ ':')
  match name, cs.dropWhile (· ≠ ':') with
  | c :: _, _ :: rest =>
    if c.isAlpha && name.all isSchemeChar then (some (name.map Char.toLower), rest)
    else (none, cs)
  | _, _ => (none, cs)

/-- Whether a character ends an authority. -/
def endsAuthority (c : Char) : Bool := c == '/' || c == '?' || c == '#'

/-- The authority a text starts with, if it does, and what follows it. -/
def splitAuthority : List Char → Option (List Char) × List Char
  | '/' :: '/' :: cs =>
    (some (cs.takeWhile fun c => !endsAuthority c), cs.dropWhile fun c => !endsAuthority c)
  | cs => (none, cs)

/-- Reads a reference. Blanks and control characters before it do not count, nor do
tabs and line ends anywhere in it. -/
def ofChars (cs : List Char) : Except AuthorityError Reference := do
  let cs := (cs.dropWhile (· ≤ ' ')).filter fun c => c ≠ '\t' && c ≠ '\n' && c ≠ '\r'
  let (scheme, cs) := splitScheme cs
  let (authority, cs) := splitAuthority cs
  Authority.check (authority.getD [])
  return ⟨scheme, authority, cs.takeWhile fun c => c ≠ '?' && c ≠ '#'⟩

/-- Writes a reference, with its authority in plain form. -/
def plain (r : Reference) : Except AuthorityError (List Char) := do
  let authority ← r.authority.mapM Authority.plain
  return (r.scheme.map (· ++ [':'])).getD [] ++ (authority.map (['/', '/'] ++ ·)).getD [] ++ r.path

end Reference

end ContextFree.Service
