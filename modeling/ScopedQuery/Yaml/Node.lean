/-
Module: ScopedQuery.Yaml.Node
Purpose: The tree of nodes that the tokens of a document stand for.
Trusted boundary: agreement with the parser of libyaml that serde_yaml 0.9 reads
  with is assumed, not proved
Main exports:
  Node, TagHandles, Properties, readNode
-/
import ScopedQuery.Yaml.Token

namespace ScopedQuery.Yaml

/-!
A node is a scalar, a sequence, a mapping, or a name that refers to another
node.  A reader takes the tokens of a node off the front of a list and hands on
the rest.  Nesting is bounded by the number of tokens, which is the fuel.
-/

/-- A node, where `ref` is what stands for another node. -/
inductive Node (ref : Type) where
  | scalar (anchor : Option (List Char)) (tag : Option TagText)
      (scalar : Scalar)
  | sequence (anchor : Option (List Char)) (items : List (Node ref))
  | mapping (anchor : Option (List Char)) (entries : List (Node ref × Node ref))
  | refer (target : ref)
deriving Repr, Inhabited

/-- A node as written: other nodes are referred to by name. -/
abbrev NamedNode := Node (List Char)

/-- The scalar that stands where nothing is written. -/
def NamedNode.missing : NamedNode := .scalar none none .missing

/-- What the handles of a document stand for. -/
abbrev TagHandles := List (List Char × TagText)

/-- The tag that a handle and a suffix give, if the handle stands for
something. -/
def TagHandles.resolve? (handles : TagHandles) (handle : List Char)
    (suffix : TagText) : Option TagText :=
  if handle.isEmpty then some suffix
  else (handles.lookup handle).map (· ++ suffix)

/-- The anchor and the tag in front of a node. -/
structure Properties where
  anchor : Option (List Char) := none
  tag : Option TagText := none
deriving Repr, Inhabited

/-- Something is given in front of the node. -/
def Properties.isGiven (properties : Properties) : Bool :=
  properties.anchor.isSome || properties.tag.isSome

/-- Read an anchor and a tag, in either order, one of each at most. -/
def readProperties (handles : TagHandles) :
    List Token → Option (Properties × List Token)
  | .anchor name :: .tag handle suffix :: tokens
  | .tag handle suffix :: .anchor name :: tokens => do
      let tag ← handles.resolve? handle suffix
      some (⟨some name, some tag⟩, tokens)
  | .anchor name :: tokens => some (⟨some name, none⟩, tokens)
  | .tag handle suffix :: tokens => do
      let tag ← handles.resolve? handle suffix
      some (⟨none, some tag⟩, tokens)
  | tokens => some ({}, tokens)

/-- Where a node stands: within a flow collection, or in a block, where the
value of a mapping may be a sequence without indentation. -/
inductive Place where
  | flow
  | block
  | blockValue
deriving Repr, Inhabited, DecidableEq

/-- The next token is one of the given ones. -/
def nextIn (choices : List Token) : List Token → Bool
  | [] => false
  | token :: _ => choices.contains token

/-- Properties alone stand for an empty scalar. -/
def missingNode (properties : Properties) (tokens : List Token) :
    Option (NamedNode × List Token) :=
  if properties.isGiven then
    some (.scalar properties.anchor properties.tag .missing, tokens)
  else none

mutual

/-- Read a node. -/
def readNode (handles : TagHandles) (place : Place) :
    Nat → List Token → Option (NamedNode × List Token)
  | 0, _ => none
  | _ + 1, .nodeRef name :: tokens => some (.refer name, tokens)
  | fuel + 1, tokens => do
      let (properties, tokens) ← readProperties handles tokens
      let anchor := properties.anchor
      match tokens with
      | .scalar scalar :: tokens =>
          some (.scalar anchor properties.tag scalar, tokens)
      | .flowSequenceStart :: tokens => do
          let (items, tokens) ← readFlowItems handles true fuel tokens
          some (.sequence anchor items, tokens)
      | .flowMappingStart :: tokens => do
          let (entries, tokens) ← readFlowEntries handles true fuel tokens
          some (.mapping anchor entries, tokens)
      | .blockEntry :: _ =>
          if place = .blockValue then do
            let (items, tokens) ← readLooseItems handles fuel tokens
            some (.sequence anchor items, tokens)
          else missingNode properties tokens
      | .blockSequenceStart :: inner =>
          if place = .flow then missingNode properties tokens
          else do
            let (items, tokens) ← readBlockItems handles fuel inner
            some (.sequence anchor items, tokens)
      | .blockMappingStart :: inner =>
          if place = .flow then missingNode properties tokens
          else do
            let (entries, tokens) ← readBlockEntries handles fuel inner
            some (.mapping anchor entries, tokens)
      | _ => missingNode properties tokens

/-- Read a node, or nothing before one of the given tokens. -/
def readOptional (handles : TagHandles) (place : Place) (stops : List Token) :
    Nat → List Token → Option (NamedNode × List Token)
  | 0, _ => none
  | fuel + 1, tokens =>
      if nextIn stops tokens then some (.missing, tokens)
      else readNode handles place fuel tokens

/-- Read the items of an indented block sequence. -/
def readBlockItems (handles : TagHandles) :
    Nat → List Token → Option (List NamedNode × List Token)
  | 0, _ => none
  | fuel + 1, .blockEntry :: tokens => do
      let (item, tokens) ←
        readOptional handles .block [.blockEntry, .blockEnd] fuel tokens
      let (items, tokens) ← readBlockItems handles fuel tokens
      some (item :: items, tokens)
  | _ + 1, .blockEnd :: tokens => some ([], tokens)
  | _ + 1, _ => none

/-- Read the items of a block sequence that is not indented. -/
def readLooseItems (handles : TagHandles) :
    Nat → List Token → Option (List NamedNode × List Token)
  | 0, _ => none
  | fuel + 1, .blockEntry :: tokens => do
      let (item, tokens) ←
        readOptional handles .block [.blockEntry, .key, .value, .blockEnd] fuel
          tokens
      let (items, tokens) ← readLooseItems handles fuel tokens
      some (item :: items, tokens)
  | _ + 1, tokens => some ([], tokens)

/-- Read the entries of a block mapping. -/
def readBlockEntries (handles : TagHandles) :
    Nat → List Token →
      Option (List (NamedNode × NamedNode) × List Token)
  | 0, _ => none
  | fuel + 1, .key :: tokens => do
      let stops := [.key, .value, .blockEnd]
      let (key, tokens) ← readOptional handles .blockValue stops fuel tokens
      let (value, tokens) ←
        match tokens with
        | .value :: tokens => readOptional handles .blockValue stops fuel tokens
        | tokens => some (.missing, tokens)
      let (entries, tokens) ← readBlockEntries handles fuel tokens
      some ((key, value) :: entries, tokens)
  | _ + 1, .blockEnd :: tokens => some ([], tokens)
  | _ + 1, _ => none

/-- Read the items of a flow sequence.  An item after the first comes behind a
comma. -/
def readFlowItems (handles : TagHandles) (first : Bool) :
    Nat → List Token → Option (List NamedNode × List Token)
  | 0, _ => none
  | fuel + 1, tokens =>
      match first, tokens with
      | _, .flowSequenceEnd :: tokens => some ([], tokens)
      | false, .flowEntry :: .flowSequenceEnd :: tokens => some ([], tokens)
      | false, .flowEntry :: tokens => readFlowItem handles fuel tokens
      | true, tokens => readFlowItem handles fuel tokens
      | false, _ => none

/-- Read an item of a flow sequence and those after it.  A key starts a mapping
of one entry. -/
def readFlowItem (handles : TagHandles) :
    Nat → List Token → Option (List NamedNode × List Token)
  | 0, _ => none
  | fuel + 1, .key :: tokens => do
      let (key, tokens) ← readPairKey handles fuel tokens
      let (value, tokens) ←
        match tokens with
        | .value :: tokens =>
            readOptional handles .flow [.flowEntry, .flowSequenceEnd] fuel tokens
        | tokens => some (.missing, tokens)
      let (items, tokens) ← readFlowItems handles false fuel tokens
      some (.mapping none [(key, value)] :: items, tokens)
  | fuel + 1, tokens => do
      let (item, tokens) ← readNode handles .flow fuel tokens
      let (items, tokens) ← readFlowItems handles false fuel tokens
      some (item :: items, tokens)

/-- Read the key of a mapping of one entry.  Where it is missing, the token that
shows it goes with it. -/
def readPairKey (handles : TagHandles) :
    Nat → List Token → Option (NamedNode × List Token)
  | 0, _ => none
  | fuel + 1, tokens =>
      if nextIn [.value, .flowEntry, .flowSequenceEnd] tokens then
        some (.missing, tokens.drop 1)
      else readNode handles .flow fuel tokens

/-- Read the entries of a flow mapping.  An entry after the first comes behind a
comma. -/
def readFlowEntries (handles : TagHandles) (first : Bool) :
    Nat → List Token →
      Option (List (NamedNode × NamedNode) × List Token)
  | 0, _ => none
  | fuel + 1, tokens =>
      match first, tokens with
      | _, .flowMappingEnd :: tokens => some ([], tokens)
      | false, .flowEntry :: .flowMappingEnd :: tokens => some ([], tokens)
      | false, .flowEntry :: tokens => readFlowEntry handles fuel tokens
      | true, tokens => readFlowEntry handles fuel tokens
      | false, _ => none

/-- Read an entry of a flow mapping and those after it.  An entry that is not
marked as a key has no value. -/
def readFlowEntry (handles : TagHandles) :
    Nat → List Token →
      Option (List (NamedNode × NamedNode) × List Token)
  | 0, _ => none
  | fuel + 1, .key :: tokens => do
      let (key, tokens) ←
        readOptional handles .flow [.value, .flowEntry, .flowMappingEnd] fuel
          tokens
      let (value, tokens) ←
        match tokens with
        | .value :: tokens =>
            readOptional handles .flow [.flowEntry, .flowMappingEnd] fuel tokens
        | tokens => some (.missing, tokens)
      let (entries, tokens) ← readFlowEntries handles false fuel tokens
      some ((key, value) :: entries, tokens)
  | fuel + 1, tokens => do
      let (key, tokens) ← readNode handles .flow fuel tokens
      let (entries, tokens) ← readFlowEntries handles false fuel tokens
      some ((key, .missing) :: entries, tokens)

end

end ScopedQuery.Yaml
