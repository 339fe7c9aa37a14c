/-!
# Encodings

The encodings of Unicode, and how to tell which one a text was written in. A text
arrives as the characters its bytes spell in UTF-8; if it was written in units of
two or four bytes, those characters are not the text, and it is read again from
the bytes.

A text that may only start with an ASCII character gives its encoding away by
where its first zero bytes are: a unit of two bytes has one of them and a unit of
four has three, before the character or after it.

What is read are code points. One half of a surrogate pair is a code point without
a character, and it may stand alone. A text has the replacement character in its
place; `isWhole` tells the code points that need none.
-/

namespace ContextFree.Text

/-- Which byte of a unit comes first. -/
inductive ByteOrder where
  /-- The most significant one. -/
  | big
  /-- The least significant one. -/
  | little

/-- How characters are written as bytes. -/
inductive Encoding where
  | utf8
  | utf16 (order : ByteOrder)
  | utf32 (order : ByteOrder)

/-- The encoding of bytes that write a text with an ASCII character at its start. -/
def Encoding.ofBytes : List UInt8 → Encoding
  | [a, b] => if a = 0 then .utf16 .big else if b = 0 then .utf16 .little else .utf8
  | a :: b :: c :: d :: _ =>
    if a = 0 then if b = 0 then .utf32 .big else .utf16 .big
    else if b = 0 then if c = 0 ∧ d = 0 then .utf32 .little else .utf16 .little
    else .utf8
  | _ => .utf8

/-- The character of a code point; half a surrogate pair has none and is shown by
the replacement character. -/
def character (code : Nat) : Char := if code.isValidChar then Char.ofNat code else '\uFFFD'

/-- The characters of code points. -/
def characters (codes : List Nat) : List Char := codes.map character

/-- The text of code points. -/
def ofCodes (codes : List Nat) : String := String.ofList (characters codes)

/-- Whether all code points have characters. -/
def isWhole (codes : List Nat) : Bool := codes.all fun code => code.isValidChar

theorem toNat_character {code : Nat} (h : code.isValidChar) : (character code).toNat = code := by
  rw [character, if_pos h, Char.ofNat, dif_pos h]
  rfl

/-- No code point is lost if all of them have characters. -/
theorem map_toNat_characters {codes : List Nat} (h : isWhole codes = true) :
    (characters codes).map Char.toNat = codes := by
  have hvalid : ∀ code ∈ codes, code.isValidChar := fun code hcode =>
    of_decide_eq_true (List.all_eq_true.1 h code hcode)
  rw [characters, List.map_map]
  exact (List.map_congr_left fun code hcode => toNat_character (hvalid code hcode)).trans
    (List.map_id codes)

/-- Joins the halves of surrogate pairs. A half that stands alone stays. -/
def joinHalves : List Nat → List Nat
  | [] => []
  | [n] => [n]
  | n :: m :: ns =>
    if 0xD800 ≤ n ∧ n < 0xDC00 ∧ 0xDC00 ≤ m ∧ m < 0xE000 then
      (0x10000 + (n - 0xD800) * 0x400 + (m - 0xDC00)) :: joinHalves ns
    else n :: joinHalves (m :: ns)

/-- Joins numbers below the base two by two, if none is left over. -/
def joinPairs? (order : ByteOrder) (base : Nat) : List Nat → Option (List Nat)
  | [] => some []
  | [_] => none
  | a :: b :: ns => do
    let n := match order with
      | .big => a * base + b
      | .little => b * base + a
    return n :: (← joinPairs? order base ns)

/-- The units of two bytes that bytes make up. -/
def units16? (order : ByteOrder) (bytes : List UInt8) : Option (List Nat) :=
  joinPairs? order 0x100 (bytes.map UInt8.toNat)

/-- The units of four bytes that bytes make up. -/
def units32? (order : ByteOrder) (bytes : List UInt8) : Option (List Nat) := do
  joinPairs? order 0x10000 (← units16? order bytes)

/-- A text without the byte order mark it may start with. -/
def withoutMark : List Char → List Char
  | '\uFEFF' :: cs => cs
  | cs => cs

/-- The code points that were written, given the characters their bytes spell in
UTF-8. There are none if a unit is incomplete or no code point. -/
def codePoints? (cs : List Char) : Option (List Nat) :=
  let bytes := cs.flatMap String.utf8EncodeChar
  match Encoding.ofBytes bytes with
  | .utf8 => some ((withoutMark cs).map Char.toNat)
  | .utf16 order => (units16? order bytes).map joinHalves
  | .utf32 order => do
    let units ← units32? order bytes
    if units.all (· < 0x110000) then some units else none

end ContextFree.Text
