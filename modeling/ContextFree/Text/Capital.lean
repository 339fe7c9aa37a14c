/-!
# Capitals

Words of a protocol are compared in capitals. They are ASCII words, and all that
this asks of a character is which ASCII letters it becomes.
-/

namespace ContextFree.Text

/-- The characters beyond ASCII whose capitals are ASCII letters: the sharp s, the
dotless i, the long s and the ligatures. -/
def asciiCapitals : List (Char × String) :=
  [('ß', "SS"), ('ı', "I"), ('ſ', "S"), ('ﬀ', "FF"), ('ﬁ', "FI"), ('ﬂ', "FL"), ('ﬃ', "FFI"),
    ('ﬄ', "FFL"), ('ﬅ', "ST"), ('ﬆ', "ST")]

/-- The capitals of a character, if they are ASCII letters; the character if not. -/
def capitals (c : Char) : List Char :=
  match asciiCapitals.lookup c with
  | some s => s.toList
  | none => [c.toUpper]

end ContextFree.Text
