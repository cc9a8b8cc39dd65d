/-
Module: ScopedQuery.Yaml.Document
Purpose: The one document of a YAML text, with its anchors.
Trusted boundary: agreement with the documents and anchors of serde_yaml 0.9 is
  assumed, not proved
Main exports:
  Document, Document.ofTokens?, Document.parse?, Document.scalar?
-/
import ScopedQuery.Yaml.Lexer
import ScopedQuery.Yaml.Node

namespace ScopedQuery.Yaml

/-!
A text holds one document or none.  Anchors are numbered in the order of the
text: an anchor gets the number of different names before it.  A reference means
the latest anchor of its name, by number, and a number means the last node that
got it.
-/

/-! ## Directives -/

/-- The directives in front of a document. -/
structure Directives where
  hasVersion : Bool := false
  handles : TagHandles := []
deriving Repr, Inhabited

/-- The handles that need no directive. -/
def standardHandles : TagHandles :=
  [(['!'], TagText.ofChars ['!']),
    (['!', '!'], TagText.ofChars "tag:yaml.org,2002:".toList)]

/-- Read directives.  A version may be given once and a handle once each. -/
def readDirectives (directives : Directives) :
    List Token → Option (Directives × List Token)
  | .version major minor :: tokens =>
      if directives.hasVersion || major != 1 || (minor != 1 && minor != 2) then
        none
      else readDirectives { directives with hasVersion := true } tokens
  | .tagDirective handle uri :: tokens =>
      if (directives.handles.lookup handle).isSome then none
      else
        readDirectives
          { directives with handles := (handle, uri) :: directives.handles }
          tokens
  | tokens => some (directives, tokens)

/-! ## Documents as written -/

/-- A token that is not part of a node. -/
def isBoundary : Token → Bool
  | .version _ _ | .tagDirective _ _ => true
  | .documentStart | .documentEnd | .streamEnd => true
  | _ => false

/-- Read a node outside of any other. -/
def readRoot (handles : TagHandles) (tokens : List Token) :
    Option (NamedNode × List Token) :=
  readNode (handles ++ standardHandles) .block (4 * tokens.length + 4) tokens

/-- Read what follows the mark of a document. -/
def readContent (handles : TagHandles) :
    List Token → Option (NamedNode × List Token)
  | [] => none
  | token :: tokens =>
      if isBoundary token then some (.missing, token :: tokens)
      else readRoot handles (token :: tokens)

/-- Read a document. -/
def readDocument : List Token → Option (NamedNode × List Token)
  | [] => none
  | .documentEnd :: _ => none
  | token :: tokens =>
      if isBoundary token then do
        let (directives, tokens) ← readDirectives {} (token :: tokens)
        match tokens with
        | .documentStart :: tokens => readContent directives.handles tokens
        | _ => none
      else readRoot [] (token :: tokens)

/-- Nothing but end marks is left. -/
def endsStream : List Token → Bool
  | .documentEnd :: tokens => endsStream tokens
  | [.streamEnd] => true
  | _ => false

/-- The root of the only document of a text, if there is a document. -/
def rootOf? : List Token → Option (Option NamedNode)
  | [.streamEnd] => some none
  | tokens => do
      let (root, rest) ← readDocument tokens
      if endsStream rest then some (some root) else none

/-! ## Anchors -/

/-- A scalar with its tag. -/
structure TaggedScalar where
  tag : Option TagText
  scalar : Scalar
deriving Repr, Inhabited

/-- The numbers of names, and what numbers mean: a scalar, or a collection. -/
structure Anchors where
  numbers : List (List Char × Nat) := []
  targets : List (Nat × Option TaggedScalar) := []
deriving Repr, Inhabited

/-- Give a number to a name. -/
def Anchors.define (anchors : Anchors) (name : Option (List Char))
    (target : Option TaggedScalar) : Anchors :=
  match name with
  | none => anchors
  | some name =>
      let number := anchors.numbers.length
      { numbers := (name, number) :: anchors.numbers.filter (·.1 != name)
        targets := (number, target) :: anchors.targets }

mutual

/-- Replace names by numbers.  A name without an anchor before it is
refused. -/
def numberNode (anchors : Anchors) :
    NamedNode → Option (Anchors × Node Nat)
  | .scalar anchor tag scalar =>
      some (anchors.define anchor (some ⟨tag, scalar⟩),
        .scalar anchor tag scalar)
  | .sequence anchor items => do
      let (anchors, items) ← numberItems (anchors.define anchor none) items
      some (anchors, .sequence anchor items)
  | .mapping anchor entries => do
      let (anchors, entries) ← numberEntries (anchors.define anchor none) entries
      some (anchors, .mapping anchor entries)
  | .refer name => do some (anchors, .refer (← anchors.numbers.lookup name))

/-- Replace names by numbers in a list of nodes. -/
def numberItems (anchors : Anchors) :
    List NamedNode → Option (Anchors × List (Node Nat))
  | [] => some (anchors, [])
  | item :: items => do
      let (anchors, item) ← numberNode anchors item
      let (anchors, items) ← numberItems anchors items
      some (anchors, item :: items)

/-- Replace names by numbers in a list of entries. -/
def numberEntries (anchors : Anchors) :
    List (NamedNode × NamedNode) → Option (Anchors × List (Node Nat × Node Nat))
  | [] => some (anchors, [])
  | (key, value) :: entries => do
      let (anchors, key) ← numberNode anchors key
      let (anchors, value) ← numberNode anchors value
      let (anchors, entries) ← numberEntries anchors entries
      some (anchors, (key, value) :: entries)

end

/-! ## Documents -/

/-- The document of a text: its root, unless the text is empty, and its
anchors. -/
structure Document where
  root : Option (Node Nat)
  anchors : Anchors
deriving Repr, Inhabited

namespace Document

/-- The document that tokens stand for. -/
def ofTokens? (tokens : List Token) : Option Document := do
  match ← rootOf? tokens with
  | none => some ⟨none, {}⟩
  | some root =>
      let (anchors, root) ← numberNode {} root
      some ⟨some root, anchors⟩

/-- The document of a text. -/
def parse? (text : String) : Option Document :=
  (tokens? text).bind ofTokens?

/-- The scalar that a node is or refers to. -/
def scalar? (document : Document) : Node Nat → Option TaggedScalar
  | .scalar _ tag scalar => some ⟨tag, scalar⟩
  | .refer number => (document.anchors.targets.lookup number).join
  | _ => none

end Document

end ScopedQuery.Yaml
