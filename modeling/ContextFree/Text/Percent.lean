import ContextFree.Text.Digits

/-!
# Percent escapes

A percent sign and two hexadecimal digits stand for a byte. A character that may not
stand in a text as it is, is written as the escapes of its bytes in UTF-8.

Escapes are read in two ways. Byte by byte, every escape stands for something, and it
is left to the reader what the bytes spell. Character by character, escapes stand for
what they spell in UTF-8; those that spell nothing, or a character that would be
taken for a part of the text around it, remain.
-/

namespace ContextFree.Text

/-- The escapes of a character. -/
def escapes (c : Char) : List Char :=
  (String.utf8EncodeChar c).flatMap fun b => '%' :: hexDigits 2 b.toNat

/-- A text with its escapes read byte by byte. A byte beyond ASCII shows as the
character with its number, and a percent sign without two hexadecimal digits stands
for itself. -/
def unescape : List Char → List Char
  | [] => []
  | '%' :: a :: b :: cs =>
    match hexByte? a b with
    | some n => Char.ofNat n :: unescape cs
    | none => '%' :: unescape (a :: b :: cs)
  | c :: cs => c :: unescape cs

/-- The bytes of the escapes that a text starts with. -/
def escapedBytes : List Char → List UInt8
  | '%' :: a :: b :: cs =>
    match hexByte? a b with
    | some n => n.toUInt8 :: escapedBytes cs
    | none => []
  | _ => []

/-- The character that the escapes at the start of a text spell, which are four at
most. -/
def escapedChar? (cs : List Char) : Option Char :=
  (ByteArray.mk (escapedBytes (cs.take 12)).toArray).utf8DecodeChar? 0

/-- A text, after so many characters of it, with its escapes read character by
character where they spell a character that may stand as it is. -/
def revealAfter (isFree : Char → Bool) : Nat → List Char → List Char
  | _, [] => []
  | skipped + 1, _ :: cs => revealAfter isFree skipped cs
  | 0, c :: cs =>
    match (escapedChar? (c :: cs)).filter isFree with
    | some d => d :: revealAfter isFree (3 * d.utf8Size - 1) cs
    | none => c :: revealAfter isFree 0 cs

/-- A text with its escapes read character by character where they spell a character
that may stand as it is. -/
def reveal (isFree : Char → Bool) (cs : List Char) : List Char := revealAfter isFree 0 cs

end ContextFree.Text
