import ContextFree.Host.Address
import ContextFree.Host.Label
import ContextFree.Text.Percent

/-!
# Authorities

The part of a reference that names a host: perhaps a user, then the host by its name
or by its address in brackets, then perhaps a number. Not every text is one. Whether
it is shows in two steps. Where a reference is read, its authority is only looked at
for what would make it be taken for something else; the host and the number count
when the reference is written again in plain form.

The plain form is for machines: the host is in ASCII, and the user has escapes. For
people it is written once more, with the host in its own script and without escapes
where they are not needed.
-/

namespace ContextFree.Service

/-- Why a text is no authority. -/
inductive AuthorityError where
  /-- A bracket is missing, or something stands beside the brackets. -/
  | bracket
  /-- There are brackets, but the host is no address. -/
  | address
  /-- A character folds to one that separates the parts of a reference. -/
  | separator
  /-- What should be a number is none, or too large. -/
  | number
  /-- The host has no plain form. -/
  | name (e : Host.LabelError)
  deriving DecidableEq

/-- An authority in its parts. -/
structure Authority where
  /-- The user, with a password perhaps. -/
  user : Option (List Char)
  /-- The host, without brackets. -/
  host : List Char
  /-- What stands where the number should. -/
  number : Option (List Char)

namespace Authority

/-- What follows a character in a text, if it occurs there. -/
def after? (c : Char) (cs : List Char) : Option (List Char) :=
  (cs.dropWhile (· ≠ c)).tail?

/-- The characters that fold to one that separates the parts of a reference. -/
def separatorLookalikes : List Char :=
  ['⁇', '⁈', '⁉', '℀', '℁', '℅', '℆', '⩴', '︓', '︖', '﹕', '﹖', '﹟', '﹫', '＃', '／', '：', '？',
    '＠']

/-- The host and the number of an authority, as they are written. -/
def placeOf (cs : List Char) : List Char := (cs.reverse.takeWhile (· ≠ '@')).reverse

/-- The parts of an authority. The user ends at the last at-sign, and a number that
is empty counts as none. -/
def ofChars (cs : List Char) : Authority :=
  let place := placeOf cs
  let user := if cs.contains '@' then some (cs.take (cs.length - place.length - 1)) else none
  let (host, number) :=
    match after? '[' place with
    | some rest => (rest.takeWhile (· ≠ ']'), after? ':' (rest.dropWhile (· ≠ ']')))
    | none => (place.takeWhile (· ≠ ':'), after? ':' place)
  ⟨user, host, number.filter (!·.isEmpty)⟩

/-- Whether a host and its number have nothing before the brackets, and after them
nothing but the number. -/
def isBracketed (place : List Char) : Bool :=
  place.head? == some '[' && (((after? ']' place).getD []).head?.all (· == ':'))

/-- Looks at an authority for what would make it be taken for something else. Where
there are brackets, the host has to be an address, even if they are not its own. -/
def check (cs : List Char) : Except AuthorityError Unit := do
  if cs.contains '[' != cs.contains ']' then throw .bracket
  if cs.contains '[' then
    let place := placeOf cs
    if place.contains '[' && !isBracketed place then throw .bracket
    if !Host.isAddress (ofChars cs).host then throw .address
  if cs.any separatorLookalikes.contains then throw .separator

/-- Writes an authority. A host that holds a colon is an address and stands in
brackets. -/
def toChars (a : Authority) : List Char :=
  (a.user.map (· ++ ['@'])).getD [] ++
    (if a.host.contains ':' then '[' :: a.host ++ [']'] else a.host) ++
    (a.number.map (':' :: ·)).getD []

/-- Whether a character may stand in the plain form of a user. -/
def isPlainInUser (c : Char) : Bool :=
  c.isAlphanum || "_.-~%!$&'()*+,;=:".toList.contains c

/-- A user in plain form, with escapes for the bytes of all other characters. -/
def plainUser (cs : List Char) : List Char :=
  cs.flatMap fun c => if isPlainInUser c then [c] else Text.escapes c

/-- A host in plain form: in small letters up to its first percent sign, and in
ASCII. -/
def plainHost (cs : List Char) : Except AuthorityError (List Char) :=
  let lower := (cs.takeWhile (· ≠ '%')).map Char.toLower ++ cs.dropWhile (· ≠ '%')
  (Host.asciiName lower).mapError .name

/-- The longest text that is read as a number. -/
def maxNumberDigits : Nat := 4300

/-- The largest number. -/
def maxNumber : Nat := 65535

/-- A number in plain form, without zeros before it. -/
def plainNumber (cs : List Char) : Except AuthorityError (List Char) :=
  if cs.all Char.isDigit && cs.length ≤ maxNumberDigits && Text.decimalValue cs ≤ maxNumber then
    .ok (Nat.toDigits 10 (Text.decimalValue cs))
  else .error .number

/-- Writes an authority in plain form. -/
def plain (cs : List Char) : Except AuthorityError (List Char) := do
  let a := ofChars cs
  let host ← plainHost a.host
  let number ← a.number.mapM plainNumber
  return toChars ⟨a.user.map plainUser, host, number⟩

/-- Whether a character may stand in a user without an escape. It may not where it
would end the user or a part of it, begin an escape or not be seen. -/
def isShownInUser (c : Char) : Bool :=
  ' ' < c && c != '\x7F' && !"%:@/?#".toList.contains c

/-- A user for people. One that has only a password is not shown. -/
def shownUser? (cs : List Char) : Option (List Char) :=
  if cs.head?.all (· == ':') then none else some (Text.reveal isShownInUser cs)

/-- Writes an authority in plain form for people. -/
def shown (cs : List Char) : Except AuthorityError (List Char) := do
  let a := ofChars cs
  let host ← (Host.unicodeName a.host).mapError .name
  return toChars ⟨a.user.bind shownUser?, host, a.number⟩

end Authority

end ContextFree.Service
