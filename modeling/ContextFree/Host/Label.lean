import ContextFree.Host.Composition
import ContextFree.Host.Punycode
import ContextFree.Host.Repertoire
import ContextFree.Text.Blank

/-!
# Host names

A host name consists of labels with dots between them. Labels in any script have a
form in ASCII: of a label that is not ASCII as it stands, all characters are folded,
and if that is not ASCII either, what is left is written in Punycode behind the mark
`xn--`. ASCII forms have at least one character and at most 63.

A form can be read back where it is the one its label is given. Others have the mark
too: some are no Punycode, and of some the label has another form.

A name may end with a dot, and the dot is not always the ASCII one.
-/

namespace ContextFree.Host

/-- Why a name has no form in ASCII, or a form in ASCII no name. -/
inductive LabelError where
  /-- A label is empty, or its form too long. -/
  | length
  /-- A character may not stand in a name. -/
  | character
  /-- A label cannot be read in one direction. -/
  | direction
  /-- A label has the mark of the form it is still to be given. -/
  | marked
  /-- What has the mark is the form of no label. -/
  | unreadable
  deriving DecidableEq

/-- Whether a text is ASCII. -/
def isAscii (cs : List Char) : Bool := cs.all fun c => c.toNat < 128

/-- A label with its characters folded. -/
def prepare (label : List Char) : Except LabelError (List Char) :=
  let folded := compose (label.flatMap fold)
  if !isPermitted folded then .error .character
  else if !hasDirection folded then .error .direction
  else .ok folded

/-- What a label in another form than its own starts with. -/
def labelMark : List Char := "xn--".toList

/-- A label in Punycode. -/
def encode (label : List Char) : Except LabelError (List Char) :=
  if labelMark.isPrefixOf label then .error .marked
  else .ok (labelMark ++ Punycode.encode label)

/-- A label, if its length is that of a label. -/
def checkLength (label : List Char) : Except LabelError (List Char) :=
  if label.isEmpty || 63 < label.length then .error .length else .ok label

/-- The form of a label in ASCII. -/
def asciiLabel (label : List Char) : Except LabelError (List Char) := do
  if isAscii label then checkLength label
  else
    let folded ← prepare label
    if isAscii folded then checkLength folded else checkLength (← encode folded)

/-- The label that has a form. Letters of the form count in either case. -/
def unicodeLabel (form : List Char) : Except LabelError (List Char) :=
  if labelMark.isPrefixOf form then
    match Punycode.decode? (form.drop labelMark.length) with
    | some label =>
      if (asciiLabel label).toOption == some (form.map Char.toLower) then .ok label
      else .error .unreadable
    | none => .error .unreadable
  else .ok form

/-- Whether a character stands between labels. -/
def isDot (c : Char) : Bool := c == '.' || c == '。' || c == '．' || c == '｡'

/-- The labels of a name that is not empty, and whether a dot follows the last. -/
def labels (name : List Char) : List (List Char) × Bool :=
  let pieces := Text.pieces isDot name
  if pieces.getLast? == some [] then (pieces.dropLast, true) else (pieces, false)

/-- A name with each of its labels in another form. There may be no name. -/
def mapLabels (form : List Char → Except LabelError (List Char)) (name : List Char) :
    Except LabelError (List Char) := do
  if name.isEmpty then return []
  let (labels, dotted) := labels name
  let forms ← labels.mapM form
  return ['.'].intercalate forms ++ if dotted then ['.'] else []

/-- The form of a name in ASCII. -/
def asciiName (name : List Char) : Except LabelError (List Char) := mapLabels asciiLabel name

/-- The name that has a form in ASCII. -/
def unicodeName (form : List Char) : Except LabelError (List Char) := mapLabels unicodeLabel form

end ContextFree.Host
