import ContextFree.Text.Blank
import ContextFree.Text.Digits

/-!
# Addresses

A host can be named by its address, in brackets. That is an address of version six:
eight groups of hexadecimal digits with colons between them, where two colons stand
for as many groups of zeros as are missing, and where the last two groups may be
written as an address of version four. A zone may follow. An address of a later
version begins with the letter `v` and its number, and anything may follow after a
point.
-/

namespace ContextFree.Host

/-- Whether a character is a hexadecimal digit. -/
def isHexDigit (c : Char) : Bool := (Text.hexValue? c).isSome

/-- Whether a text is a group of an address of version six. -/
def isGroup (cs : List Char) : Bool := !cs.isEmpty && cs.length ≤ 4 && cs.all isHexDigit

/-- Whether a text is one of the four numbers of an address of version four. Zeros
before a number are not allowed. -/
def isOctet (cs : List Char) : Bool :=
  !cs.isEmpty && cs.length ≤ 3 && cs.all Char.isDigit && (cs == ['0'] || cs.head? != some '0') &&
    Text.decimalValue cs ≤ 255

/-- Whether a text is an address of version four. -/
def isDotted (cs : List Char) : Bool :=
  let octets := Text.pieces (· == '.') cs
  octets.length == 4 && octets.all isOctet

/-- The number of groups that a text without a gap has, if it has nothing else. Where
an address ends, the last two can be written in the other way. -/
def groupCount? (atEnd : Bool) (cs : List Char) : Option Nat :=
  if cs.isEmpty then some 0
  else
    let groups := Text.pieces (· == ':') cs
    let dotted := atEnd && groups.getLast?.any isDotted
    let groups' := if dotted then groups.dropLast else groups
    if groups'.all isGroup then some (groups'.length + if dotted then 2 else 0) else none

/-- What stands before and after the first two colons that follow each other. -/
def cutAtGap? : List Char → Option (List Char × List Char)
  | ':' :: ':' :: cs => some ([], cs)
  | c :: cs => (cutAtGap? cs).map fun (before, after) => (c :: before, after)
  | [] => none

/-- Whether a text is an address of version six without a zone. -/
def isGrouped (cs : List Char) : Bool :=
  match cutAtGap? cs with
  | none => groupCount? true cs == some 8
  | some (before, after) =>
    match groupCount? false before, groupCount? true after with
    | some m, some n => m + n < 8
    | _, _ => false

/-- Whether a text is an address of version six. A zone after it is not empty and has
no second percent sign. -/
def isVersionSix (cs : List Char) : Bool :=
  isGrouped (cs.takeWhile (· ≠ '%')) &&
    match cs.dropWhile (· ≠ '%') with
    | [] => true
    | _ :: zone => !zone.isEmpty && !zone.contains '%'

/-- Whether a text that begins with the letter `v` goes on as an address of a later
version. -/
def isLaterVersion (cs : List Char) : Bool :=
  !(cs.takeWhile isHexDigit).isEmpty &&
    match cs.dropWhile isHexDigit with
    | '.' :: rest => !rest.isEmpty
    | _ => false

/-- Whether a text can stand in brackets. -/
def isAddress : List Char → Bool
  | 'v' :: cs => isLaterVersion cs
  | cs => isVersionSix cs

end ContextFree.Host
