import ContextFree.Proofs.NormalForm
import ContextFree.Proofs.Requests
import ContextFree.Proofs.Spelling

/-!
# Words that are sent back as they were printed

A sample is printed by joining its labels, and a text that is asked about is cut into labels
again. The answer says whether the grammar that was set generates the word that the text
reads as: the recognizer works on its normal form, and conversion keeps the language. So
what becomes of a printed word depends on its labels alone. If all of them are plain, the
text reads as the word and is recognised. A grammar given as lists of labels may have labels
that are not plain; of a word with such a label, the text reads as another word, which the
grammar may or may not generate.

Labels are texts, so they are made of characters. A request can hold half of a surrogate
pair that stands alone, and two labels of such halves would be read back as one character.
The reader puts the replacement character for them; what is said here is about requests in
which nothing was replaced.
-/

namespace ContextFree

namespace Service

/-- The grammar was read, and its normal form is a conversion of it. -/
structure Loaded.Sound (l : Loaded) : Prop where
  isRead : l.source.IsRead
  converts : ConvertsTo l.source l.normal

/-- The request asks about a text, in the way words are written, and is read as it is. -/
def Request.AsksAbout (r : Request) (text : String) : Prop :=
  r.endpoint? = some .validate ∧ r.isWhole = true ∧ ∃ fields, r.fields? = some fields ∧
    (fields.field? "tokens").getD .null = .null ∧ fields.field? "string" = some (.text text)

/-- The grammar that is remembered after requests, if all that were to set one are read as
they are. -/
structure Remembers (config : Config) (choices : Choices) (rs : List Request) (l : Loaded) :
    Prop where
  isWhole : ∀ r ∈ rs, r.endpoint? = some .setGrammar → r.isWhole = true
  loaded : (after config choices {} rs).loaded = some l

variable {config : Config} {choices : Choices} {s : State} {r : Request} {rs : List Request}
  {spelling : Spelling} {fields : Json} {fields? : Option Json} {l : Loaded} {g : Grammar}
  {w : Word} {text : String}

/-! ## The grammar that is remembered -/

theorem ok_of_mapError {ε ε' α : Type} {f : ε → ε'} {x : Except ε α} {a : α}
    (h : x.mapError f = .ok a) : x = .ok a := by
  cases x with
  | error e => cases h
  | ok b =>
      cases h
      rfl

theorem isRead_of_readText {start : Json} {bounded : Bool}
    (h : readText spelling bounded start text = .ok g) : g.IsRead := by
  unfold readText at h
  split at h
  · exact .text h
  · obtain ⟨g', hread, h⟩ := bind_eq_ok_iff.1 h
    split at h
    · cases h
      exact .text hread
    · cases h

theorem isRead_of_readGrammar (h : readGrammar config spelling fields = .ok g) : g.IsRead := by
  unfold readGrammar at h
  split at h
  · exact isRead_of_readText (ok_of_mapError h)
  · split at h
    · exact .entries (ok_of_mapError h)
    · cases h
  · cases h

theorem Loaded.sound_of_load (h : load config fields? = .ok l) : l.Sound := by
  unfold load at h
  cases fields? with
  | none => cases h
  | some fields =>
      obtain ⟨g, hread, h⟩ := bind_eq_ok_iff.1 h
      dsimp only at h
      split at h
      · next normal hrun =>
          cases h
          exact ⟨isRead_of_readGrammar hread, _, _, Or.inr ⟨_, hrun⟩⟩
      · cases h

theorem Loaded.sound_of_grammarSet? (h : grammarSet? config r = some l) : l.Sound := by
  unfold grammarSet? at h
  split at h
  · cases hload : load config r.fields? with
    | error x =>
        rw [hload] at h
        cases h
    | ok l' =>
        rw [hload] at h
        cases h
        exact sound_of_load hload
  · cases h

theorem Loaded.sound_of_after (h : (after config choices {} rs).loaded = some l) : l.Sound := by
  rw [after_loaded, Option.or_none, Option.bind_eq_some_iff] at h
  obtain ⟨q, -, hset⟩ := h
  exact sound_of_grammarSet? hset

theorem Loaded.Sound.exists_recognize (hl : l.Sound) (w : Word) :
    ∃ result, l.normal.recognize w = .ok result ∧
      (result.accepted = true ↔ l.source.Generates w) := by
  obtain ⟨hc, hL⟩ := hl.converts.converted hl.isRead.wellFormed
  obtain ⟨result, hresult, haccepted⟩ :=
    exists_recognize_eq_ok hc.isNormal hc.trim.wellFormed.closed w
  exact ⟨result, hresult, (haccepted.trans (hL w)).trans hl.isRead.accepts_iff⟩

/-- One request is enough to set a grammar. -/
theorem exists_remembers (choices : Choices) (hr : r.isWhole = true)
    (h : (grammarSet? config r).map (fun l => (l.source, l.spelling)) = some (g, spelling)) :
    ∃ l, Remembers config choices [r] l ∧ l.source = g ∧ l.spelling = spelling := by
  obtain ⟨l, hset, hl⟩ := Option.map_eq_some_iff.1 h
  rw [Prod.mk.injEq] at hl
  refine ⟨l, ⟨List.forall_mem_singleton.2 fun _ => hr, ?_⟩, hl⟩
  have hone : (after config choices {} [r]).loaded = (grammarSet? config r).or none := next_loaded
  rw [hone, hset, Option.some_or]

/-! ## The answer about a text -/

theorem reply_validate (h : r.endpoint? = some .validate) :
    reply config choices s r = .ok (validate config s.loaded r.fields?) := by
  unfold reply
  rw [exchange_of_endpoint? h, headersOnly_of_endpoint? h rfl]
  rfl

theorem validate_of_long (hword : readWord l.spelling fields = .ok w)
    (hlong : config.maxLength < w.length) :
    validate config (some l) (some fields) =
      .failure ("Input longer than " ++ toString config.maxLength ++ " symbols.") := by
  simp only [validate, hword, if_pos hlong]

theorem validate_of_recognize {result : Recognition} (hword : readWord l.spelling fields = .ok w)
    (hshort : ¬ config.maxLength < w.length) (hresult : l.normal.recognize w = .ok result) :
    (validate config (some l) (some fields)).flag? "success" = some true ∧
      (validate config (some l) (some fields)).flag? "valid" = some result.accepted := by
  simp only [validate, hword, if_neg hshort, hresult]
  exact ⟨rfl, rfl⟩

/-- The answer says whether the grammar generates the word that the text reads as. -/
theorem reply_to_text (choices : Choices) (hl : l.Sound) (hloaded : s.loaded = some l)
    (hr : r.AsksAbout text) :
    ∃ response, reply config choices s r = .ok response ∧
      (response.flag? "success" = some true ↔
        ((l.spelling.split text.toList).length : Int) ≤ config.maxLength) ∧
      (response.flag? "valid" = some true ↔
        ((l.spelling.split text.toList).length : Int) ≤ config.maxLength ∧
          l.source.Generates (l.spelling.split text.toList)) := by
  obtain ⟨hend, -, fields, hfields, htokens, hstring⟩ := hr
  refine ⟨_, reply_validate hend, ?_⟩
  rw [hloaded, hfields]
  have hword : readWord l.spelling fields = .ok (l.spelling.split text.toList) := by
    unfold readWord
    rw [htokens, hstring]
    rfl
  by_cases hlong : config.maxLength < (l.spelling.split text.toList).length
  · rw [validate_of_long hword hlong]
    exact ⟨iff_of_false nofun (by omega), iff_of_false nofun (by omega)⟩
  · obtain ⟨result, hresult, haccepted⟩ := hl.exists_recognize (l.spelling.split text.toList)
    obtain ⟨hsuccess, hvalid⟩ := validate_of_recognize hword hlong hresult
    rw [hsuccess, hvalid]
    refine ⟨iff_of_true rfl (by omega), ?_⟩
    rw [Option.some_inj, haccepted]
    exact ⟨fun h => ⟨by omega, h⟩, And.right⟩

/-- A word of the grammar that was set is recognised when it is sent back as it was printed,
if its labels are plain. Then and only then does the text read as the word; otherwise the
answer is about the word that it does read as. -/
theorem reply_to_printed_word (hl : Remembers config choices rs l)
    (hw : l.source.Generates w) (hlength : (w.length : Int) ≤ config.maxLength)
    (hr : r.AsksAbout (l.spelling.join w)) :
    let read := l.spelling.split (l.spelling.join w).toList
    ∃ response, reply config choices (after config choices {} rs) r = .ok response ∧
      ((∀ a ∈ w, l.spelling.isPlain a = true) →
        response.flag? "success" = some true ∧ response.flag? "valid" = some true) ∧
      (read = w ↔ ∀ a ∈ w, l.spelling.isPlain a = true) ∧
      (response.flag? "success" = some true ↔ (read.length : Int) ≤ config.maxLength) ∧
      (response.flag? "valid" = some true ↔
        (read.length : Int) ≤ config.maxLength ∧ l.source.Generates read) := by
  intro read
  obtain ⟨response, hreply, hsuccess, hvalid⟩ :=
    reply_to_text choices (Loaded.sound_of_after hl.loaded) hl.loaded hr
  refine ⟨response, hreply, fun hplain => ?_, Spelling.split_join_eq_iff, hsuccess, hvalid⟩
  rw [hsuccess, hvalid, Spelling.split_join hplain]
  exact ⟨hlength, hlength, hw⟩

theorem reply_to_spaced_word :
    let choices := Choices.cycle #[]
    let set := Request.post "/set_grammar"
      "\x7b\"grammar\": \"S -> the dog\", \"tokenized\": true\x7d"
    let r := Request.post "/validate" "\x7b\"string\": \"the dog\"\x7d"
    ∃ response, reply {} choices (after {} choices {} [set]) r = .ok response ∧
      response.flag? "success" = some true ∧ response.flag? "valid" = some true := by
  intro choices set r
  have hset : (grammarSet? {} set).map (fun l => (l.source, l.spelling)) =
      some ((Grammar.blank "S" false).load "S" [["the", "dog"]], .spaced) := by decide +kernel
  obtain ⟨⟨g, normal, spelling⟩, hl, rfl, rfl⟩ :=
    exists_remembers choices (by decide +kernel) hset
  have hw : ((Grammar.blank "S" false).load "S" [["the", "dog"]]).Generates ["the", "dog"] :=
    derives_variable_iff.2
      ⟨[.terminal "the", .terminal "dog"], by decide, .terminal (.terminal .nil)⟩
  have hend : r.endpoint? = some .validate := by decide +kernel
  have hfields : r.fields? = some (.object [("string", .text "the dog")]) := by rfl
  have hplain : ∀ a ∈ ["the", "dog"], Spelling.spaced.isPlain a = true := by decide
  obtain ⟨response, hreply, hvalid, -⟩ :=
    reply_to_printed_word hl hw (by decide) ⟨hend, by decide +kernel, _, hfields, rfl, rfl⟩
  exact ⟨response, hreply, hvalid hplain⟩

/-- A label of two characters is printed as one that reads as two. -/
theorem printed_label_unrecognized :
    let choices := Choices.cycle #[]
    let set := Request.post "/set_grammar"
      "\x7b\"start\": \"S\", \"productions\": \x7b\"S\": [[\"ab\"]]\x7d\x7d"
    let r := Request.post "/validate" "\x7b\"string\": \"ab\"\x7d"
    ∃ l, Remembers {} choices [set] l ∧ l.source.Generates ["ab"] ∧
      (["ab"].length : Int) ≤ ({} : Config).maxLength ∧ r.AsksAbout (l.spelling.join ["ab"]) ∧
      ∃ response, reply {} choices (after {} choices {} [set]) r = .ok response ∧
        response.flag? "success" = some true ∧ response.flag? "valid" ≠ some true := by
  intro choices set r
  have hset : (grammarSet? {} set).map (fun l => (l.source, l.spelling)) =
      some ((Grammar.blank "S" false).load "S" [["ab"]], .compact) := by decide +kernel
  obtain ⟨⟨g, normal, spelling⟩, hl, rfl, rfl⟩ :=
    exists_remembers choices (by decide +kernel) hset
  have hend : r.endpoint? = some .validate := by decide +kernel
  have hfields : r.fields? = some (.object [("string", .text "ab")]) := by rfl
  have hr : r.AsksAbout "ab" := ⟨hend, by decide +kernel, _, hfields, rfl, rfl⟩
  have hw : ((Grammar.blank "S" false).load "S" [["ab"]]).Generates ["ab"] :=
    derives_variable_iff.2 ⟨[.terminal "ab"], by decide, .terminal .nil⟩
  have hread : ¬ ((Grammar.blank "S" false).load "S" [["ab"]]).Generates ["a", "b"] := by
    intro h
    obtain ⟨rhs, hmem, d⟩ := derives_variable_iff.1 h
    have hrhs : rhs = [.terminal "ab"] := List.mem_singleton.1 hmem
    subst hrhs
    obtain ⟨v, hv, -⟩ := derives_terminal_cons_iff.1 d
    exact absurd (List.cons.inj hv).1 (by decide)
  have hshort : ((Spelling.compact.split "ab".toList).length : Int) ≤ ({} : Config).maxLength := by
    decide
  obtain ⟨response, hreply, hsuccess, hvalid⟩ :=
    reply_to_text choices (Loaded.sound_of_after hl.loaded) hl.loaded hr
  exact ⟨_, hl, hw, by decide, hr, response, hreply, hsuccess.2 hshort,
    fun h => hread (hvalid.1 h).2⟩

end Service

end ContextFree
