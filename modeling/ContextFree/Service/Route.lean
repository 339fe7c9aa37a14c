/-!
# Routes

Where a path leads. A path leads to an endpoint if it is one of the paths of that
endpoint; and if it is none, but would be one with each run of slashes taken for one
slash, it leads to where the endpoint is rather than to the endpoint.
-/

namespace ContextFree.Service

/-- What can be asked of the service. -/
inductive Endpoint where
  | setGrammar
  | showGrammar
  | generate
  | validate
  | ping
  /-- A file that would be served as it is; there are none. -/
  | file
  deriving DecidableEq

namespace Endpoint

/-- The endpoints with a path of their own. -/
def paths : List (String × Endpoint) :=
  [("/set_grammar", .setGrammar), ("/grammar", .showGrammar), ("/generate", .generate),
    ("/validate", .validate), ("/ping", .ping)]

/-- What the path of a file starts with. -/
def fileRoot : List Char := "/static/".toList

/-- Whether a path is that of a file. Its name goes on to the end of the path, does
not start with a slash, and has no line feed but at its start. -/
def isFilePath (path : List Char) : Bool :=
  fileRoot.isPrefixOf path &&
    match path.drop fileRoot.length with
    | [] => false
    | c :: cs => c != '/' && !cs.contains '\n'

/-- The endpoint of a path. -/
def ofPath? (path : List Char) : Option Endpoint :=
  (paths.lookup (String.ofList path)).or (if isFilePath path then some .file else none)

/-- Whether an endpoint is asked to do something rather than to show something. -/
def isAction : Endpoint → Bool
  | .setGrammar | .generate | .validate => true
  | .showGrammar | .ping | .file => false

/-- Whether an endpoint answers to a method. Every endpoint can be asked about itself. -/
def allows (e : Endpoint) (verb : String) : Bool :=
  verb == "OPTIONS" || if e.isAction then verb == "POST" else verb == "GET" || verb == "HEAD"

end Endpoint

/-- Where a path leads. -/
structure Route where
  /-- The endpoint. -/
  endpoint : Endpoint
  /-- Whether the endpoint has another path than the one that leads here. -/
  moved : Bool

/-- Takes each run of slashes for one slash. -/
def mergeSlashes : List Char → List Char
  | [] => []
  | c :: cs => if c == '/' && cs.head? == some '/' then mergeSlashes cs else c :: mergeSlashes cs

/-- The route of a path. -/
def Route.ofPath? (path : List Char) : Option Route :=
  match Endpoint.ofPath? path with
  | some e => some ⟨e, false⟩
  | none => (Endpoint.ofPath? (mergeSlashes path)).map (⟨·, true⟩)

end ContextFree.Service
