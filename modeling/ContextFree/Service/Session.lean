import ContextFree.Grammar.Listing
import ContextFree.NormalForm.Conversion
import ContextFree.Reading.Line
import ContextFree.Recognition
import ContextFree.Sampling
import ContextFree.Service.Request

/-!
# The grammar service

The service holds at most one grammar. A request sets it, and later requests
show it, sample it and ask it about words; the grammar as it was read answers
the samples, its normal form answers the words. The two and the spelling they
were read in are held together, so a request that fails to set a grammar leaves
all three as they were.

A request that is well formed but cannot be answered gets an answer that says
so. Only a few ill-typed fields and bodies that nest too deeply end in a fault, which
has no body.
-/

namespace ContextFree.Service

/-- What can be set when the service is started. -/
structure Config where
  /-- The label of a new start symbol; drawn if there is none. -/
  newStart : Option String := none
  /-- Whether fresh labels are single letters only. -/
  bounded : Bool := false
  /-- The longest word that is recognised. -/
  maxLength : Int := 200
  /-- How many samples are made if a request does not say. -/
  defaultCount : Json := .integer 10
  /-- The limit on passes that take out single-nonterminal rules. -/
  passLimit : Int := 1000

/-- A grammar that was set. -/
structure Loaded where
  /-- The grammar as it was read. -/
  source : Grammar
  /-- Its normal form. -/
  normal : Grammar
  /-- The spelling it was read in. -/
  spelling : Spelling

/-- What the service remembers. -/
structure State where
  /-- The grammar that was set last. -/
  loaded : Option Loaded := none
  /-- How many choices were made for samples. -/
  choicesMade : Nat := 0

/-- An answer; faults and refusals of the transport have no body. -/
structure Response where
  /-- The status code. -/
  status : Nat
  /-- The body. -/
  body : Option Json

namespace Response

/-- An answer with fields. -/
def fields (fields : List (String × Json)) : Response := ⟨200, some (.object fields)⟩

/-- An answer that says why a request was not carried out. -/
def failure (message : String) : Response :=
  .fields [("success", .bool false), ("message", .text message)]

/-- The answer to a request that the service cannot make sense of. -/
def fault : Response := ⟨500, none⟩

end Response

/-- Why a grammar was not set. -/
inductive Refusal where
  /-- A field has a type that no grammar can have there, or the fields cannot be told. -/
  | fault
  /-- The grammar cannot be read. -/
  | unreadable (e : ReadError)
  /-- The grammar has no normal form. -/
  | unconverted (e : TransformError)

/-- The answer to a request to set a grammar that was refused. -/
def Refusal.response : Refusal → Response
  | .fault => .fault
  | .unreadable e => .failure ("Grammar Error: " ++ e.message)
  | .unconverted e => .failure ("Grammar Error: " ++ e.message)

/-- Reads grammar text with a start symbol of any type. One that stands for "none"
leaves the choice to the text; one that is not a text has no rules. -/
def readText (spelling : Spelling) (bounded : Bool) (start : Json) (text : String) :
    Except ReadError Grammar :=
  match start with
  | .text s => Grammar.ofText spelling bounded (some s) text
  | start => do
    let g ← Grammar.ofText spelling bounded none text
    if start.isFalsy then return g else throw (.startWithoutRules start)

/-- Reads the grammar of a request: grammar text if there is some, and a start
symbol with productions if not. -/
def readGrammar (config : Config) (spelling : Spelling) (fields : Json) :
    Except Refusal Grammar :=
  match (fields.field? "grammar").getD .null with
  | .text text =>
    (readText spelling config.bounded ((fields.field? "start").getD .null) text).mapError .unreadable
  | .null =>
    match (fields.field? "start").getD (.text "") with
    | .text s =>
      let start := Json.text (String.ofList (Text.trim s.toList))
      let productions := (fields.field? "productions").getD (.array [])
      (Grammar.ofEntries spelling config.bounded start productions).mapError .unreadable
    | _ => .error .fault
  | _ => .error .fault

/-- Reads the grammar of a request and brings it into normal form. -/
def load (config : Config) (fields? : Option Json) : Except Refusal Loaded := do
  let some fields := fields? | throw .fault
  let spelling := Spelling.ofBool !((fields.field? "tokenized").getD .null).isFalsy
  let g ← readGrammar config spelling fields
  let conversion : Transform Unit := do
    Transform.simplify config.passLimit
    Transform.toNormalForm config.newStart config.passLimit
  match conversion.run g with
  | .ok _ normal => return ⟨g, normal, spelling⟩
  | .error e _ => throw (.unconverted e)

/-- The table of a grammar as a value. -/
def tableValue (g : Grammar) : Json :=
  .object (g.table.map fun (label, rules) =>
    (label, .array (rules.map fun labels => .array (labels.map .text))))

/-- The answer to a request that set a grammar. -/
def Loaded.response (l : Loaded) : Response :=
  .fields [("success", .bool true),
    ("message", .text "Grammar successfully parsed and converted to CNF."),
    ("start", .text l.normal.start), ("cnf", tableValue l.normal),
    ("rendered", .text l.normal.render)]

/-- Shows the grammar that was set. -/
def showGrammar : Option Loaded → Response
  | none => .failure "Grammar is not set."
  | some l =>
    .fields [("success", .bool true), ("original", .text l.source.render),
      ("cnf", .text l.normal.render), ("accepts_empty", .bool l.normal.acceptsEmpty)]

/-- How deep samples may go. There is room on the stack for that. -/
def sampleDepth : Int := 15

/-- How many samples are made at most. -/
def sampleAttempts : Int := 50

/-- Samples the grammar that was set. -/
def generate (config : Config) (choices : Choices) (loaded : Option Loaded)
    (fields? : Option Json) : Sampler Response :=
  match loaded, fields? with
  | none, _ => return .failure "Grammar is not set."
  | some _, none => return .fault
  | some l, some fields =>
    match (fields.field? "count").getD config.defaultCount with
    | .integer count =>
      if count < 1 then return .failure "'count' must be a positive integer."
      else do
        let found ← l.source.samples choices l.spelling.separator sampleDepth count sampleAttempts
        return .fields [("success", .bool true),
          ("generated", .array (found.toList.mergeSort.map .text))]
    | _ => return .failure "'count' must be a positive integer."

/-- The word a request asks about: tokens, or a text in the spelling of the grammar.
Empty tokens are dropped. -/
def readWord (spelling : Spelling) (fields : Json) : Except String Word :=
  match (fields.field? "tokens").getD .null with
  | .null =>
    match (fields.field? "string").getD (.text "") with
    | .text s => .ok (spelling.split s.toList)
    | _ => .error "'string' must be a string."
  | .array items =>
    match texts? items with
    | some tokens => .ok (tokens.filter (!·.isEmpty))
    | none => .error "'tokens' must be a list of strings."
  | _ => .error "'tokens' must be a list of strings."

/-- Says whether a word belongs to the language of the grammar that was set. -/
def validate (config : Config) (loaded : Option Loaded) (fields? : Option Json) : Response :=
  match loaded, fields? with
  | none, _ => .failure "Please set a grammar first."
  | some _, none => .fault
  | some l, some fields =>
    match readWord l.spelling fields with
    | .error message => .failure message
    | .ok word =>
      if config.maxLength < word.length then
        .failure ("Input longer than " ++ toString config.maxLength ++ " symbols.")
      else
        match l.normal.recognize word with
        | .error _ => .fault
        | .ok r =>
          let text := l.spelling.join word
          let shown := if text.isEmpty then emptyMark else text
          let verdict := if r.accepted then "derivable." else "NOT derivable."
          .fields [("success", .bool true), ("valid", .bool r.accepted),
            ("message", .text ("'" ++ shown ++ "' is " ++ verdict))]

/-- The answer of an endpoint, and what the service remembers afterwards. -/
def answer (config : Config) (choices : Choices) (e : Endpoint) (fields? : Option Json) :
    StateM State Response := do
  let state ← get
  match e with
  | .setGrammar =>
    match load config fields? with
    | .ok l =>
      set { state with loaded := some l }
      return l.response
    | .error refusal => return refusal.response
  | .showGrammar => return showGrammar state.loaded
  | .generate =>
    let (response, made) := generate config choices state.loaded fields? state.choicesMade
    set { state with choicesMade := made }
    return response
  | .validate => return validate config state.loaded fields?
  | .ping => return .fields [("status", .text "OK"), ("message", .text "Server running")]
  | .file => return ⟨404, none⟩

/-- Answers a request that was sent to a target. What the transport settles comes
first: whether the place is one the service goes by, and whether the path leads
anywhere, to an endpoint with the method, over a connection that is answered, and by
the path of the endpoint. Questions about an endpoint itself and requests for headers
only are answered without a body. -/
def respondAt (config : Config) (choices : Choices) (r : Request) (target : Target) :
    StateM State Response := do
  if !target.isNamed then return ⟨400, none⟩
  match Route.ofPath? target.path with
  | none => return ⟨404, none⟩
  | some ⟨e, moved⟩ =>
    if !e.allows r.verb then return ⟨405, none⟩
    else if target.isSocket then return ⟨400, none⟩
    else if moved then return ⟨308, none⟩
    else if r.verb = "OPTIONS" then return ⟨200, none⟩
    else
      let response ← answer config choices e r.fields?
      return if r.headersOnly then { response with body := none } else response

/-- Answers a request, if it can be sent. -/
def respond (config : Config) (choices : Choices) (r : Request) :
    ExceptT RequestError (StateM State) Response := do
  respondAt config choices r (← r.sent)

end ContextFree.Service
