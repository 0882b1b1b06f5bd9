import Tangle.Yaml.Token

/-!
# Documents of YAML

From tokens to a tree of nodes. A node can be anchored under a name and referred to by that name
after it; since a node may refer to itself, references stay in the tree, and the document keeps what
they refer to.

Readers work on the tokens that are left and on the anchors so far. The fuel bounds the depth and
the length of collections.
-/

namespace Tangle.Yaml

/-- A node. -/
inductive Node where
  | scalar (text : Text) (style : Style) (tag : Option Text)
  | sequence (items : List Node)
  | mapping (entries : List (Node × Node))
  /-- A reference to the node that is anchored with a number. -/
  | reference (number : Nat)
  deriving Repr

/-- What is written nowhere: a plain scalar without text. -/
def Node.absent (tag : Option Text) : Node := .scalar [] .plain tag

/-- Anchored nodes. The number of an anchor counts the names that were anchored before it. -/
structure Anchors where
  names : List (Text × Nat) := []
  nodes : List (Nat × Node) := []
  deriving Repr

namespace Anchors

/-- The number that a name refers to. -/
def number? (anchors : Anchors) (name : Text) : Option Nat :=
  (anchors.names.find? fun entry => entry.1 = name).map (·.2)

/-- The node with a number. -/
def node? (anchors : Anchors) (number : Nat) : Option Node :=
  (anchors.nodes.find? fun entry => entry.1 = number).map (·.2)

/-- Makes a name refer to the next number. -/
def declare (anchors : Anchors) (name : Text) : Anchors :=
  let others := anchors.names.filter fun entry => entry.1 ≠ name
  { anchors with names := (name, anchors.names.length) :: others }

end Anchors

/-- What is left to read, and the anchors so far. -/
structure Progress where
  tokens : List Token
  anchors : Anchors := {}
  deriving Repr

/-- A reader. -/
abbrev Read (α : Type) := StateT Progress Option α

namespace Read

/-- Ends in failure. -/
def fail {α : Type} : Read α := fun _ => none

/-- The next token. -/
def peek : Read (Option Token) := fun p => some (p.tokens.head?, p)

/-- Drops the next token. -/
def drop : Read Unit := fun p => some ((), { p with tokens := p.tokens.tail })

/-- Drops the next token if it is the given one, and says whether it was. -/
def accept (token : Token) : Read Bool := fun p =>
  if p.tokens.head? = some token then some (true, { p with tokens := p.tokens.tail })
  else some (false, p)

/-- Whether the next token is one of those given. -/
def isNext (tokens : List Token) : Read Bool := fun p =>
  some (p.tokens.head?.any (tokens.contains ·), p)

/-- Refers to the number of a name. -/
def number (name : Text) : Read Nat := fun p =>
  (p.anchors.number? name).map fun number => (number, p)

/-- Makes a name refer to the next number, and gives that number. -/
def declare (name : Text) : Read Nat := fun p =>
  some (p.anchors.names.length, { p with anchors := p.anchors.declare name })

/-- Keeps the node that has a number. -/
def keep (number : Nat) (node : Node) : Read Unit := fun p =>
  some ((), { p with anchors := { p.anchors with nodes := (number, node) :: p.anchors.nodes } })

end Read

/-- The beginnings of tags that handles stand for. -/
abbrev TagHandles := List (Text × Text)

/-- The handles that need no directive. -/
def standardHandles : TagHandles := [(['!'], ['!']), (['!', '!'], "tag:yaml.org,2002:".toList)]

/-- The tag that a handle and a suffix spell. A tag without a handle is its suffix. -/
def spelledTag? (handles : TagHandles) (handle suffix : Text) : Option Text :=
  if handle.isEmpty then some suffix
  else (handles.find? fun entry => entry.1 = handle).map fun entry => entry.2 ++ suffix

/-- Reads the anchor and the tag before a node, in either order. -/
def readProperties (handles : TagHandles) : Read (Option Text × Option Text) := do
  match ← Read.peek with
  | some (.anchor name) => do
    Read.drop
    match ← Read.peek with
    | some (.tag handle suffix) => do
      Read.drop
      pure (some name, some (← fun p => (spelledTag? handles handle suffix).map (·, p)))
    | _ => pure (some name, none)
  | some (.tag handle suffix) => do
    Read.drop
    let anchor ←
      match ← Read.peek with
      | some (.anchor name) => do
        Read.drop
        pure (some name)
      | _ => pure none
    pure (anchor, some (← fun p => (spelledTag? handles handle suffix).map (·, p)))
  | _ => pure (none, none)

mutual

/-- Reads a node. Block collections are read only where `block` allows them, and sequences that are
not indented only where `unindented` does. -/
def readNode (handles : TagHandles) : Nat → Bool → Bool → Read Node
  | 0, _, _ => Read.fail
  | fuel + 1, block, unindented => do
    match ← Read.peek with
    | some (.reference name) => do
      Read.drop
      pure (.reference (← Read.number name))
    | _ => do
      let (anchor, tag) ← readProperties handles
      match anchor with
      | none => readContent handles fuel block unindented false tag
      | some name => do
        let number ← Read.declare name
        let node ← readContent handles fuel block unindented true tag
        Read.keep number node
        pure node

/-- Reads a node after its anchor and tag. If it has one of them it may be absent. -/
def readContent (handles : TagHandles) : Nat → Bool → Bool → Bool → Option Text → Read Node
  | 0, _, _, _, _ => Read.fail
  | fuel + 1, block, unindented, anchored, tag => do
    match ← Read.peek with
    | some (.scalar text style) => do
      Read.drop
      pure (.scalar text style tag)
    | some .flowSequenceStart => do
      Read.drop
      pure (.sequence (← readFlowItems handles fuel true))
    | some .flowMappingStart => do
      Read.drop
      pure (.mapping (← readFlowPairs handles fuel true))
    | token =>
      if token = some .blockEntry && unindented then
        pure (.sequence (← readUnindentedItems handles fuel))
      else if token = some .blockSequenceStart && block then do
        Read.drop
        pure (.sequence (← readBlockItems handles fuel))
      else if token = some .blockMappingStart && block then do
        Read.drop
        pure (.mapping (← readBlockPairs handles fuel))
      else if anchored || tag.isSome then pure (.absent tag)
      else Read.fail

/-- Reads a node, or finds it absent before one of the given tokens. -/
def readUnless (handles : TagHandles) : Nat → List Token → Bool → Bool → Read Node
  | 0, _, _, _ => Read.fail
  | fuel + 1, stops, block, unindented => do
    if ← Read.isNext stops then pure (.absent none)
    else readNode handles fuel block unindented

/-- Reads the members of an indented block sequence. -/
def readBlockItems (handles : TagHandles) : Nat → Read (List Node)
  | 0 => Read.fail
  | fuel + 1 => do
    if ← Read.accept .blockEnd then pure []
    else if ← Read.accept .blockEntry then do
      let item ← readUnless handles fuel [.blockEntry, .blockEnd] true false
      pure (item :: (← readBlockItems handles fuel))
    else Read.fail

/-- Reads the members of a block sequence that is not indented. -/
def readUnindentedItems (handles : TagHandles) : Nat → Read (List Node)
  | 0 => Read.fail
  | fuel + 1 => do
    if ← Read.accept .blockEntry then do
      let item ← readUnless handles fuel [.blockEntry, .key, .value, .blockEnd] true false
      pure (item :: (← readUnindentedItems handles fuel))
    else pure []

/-- Reads the pairs of a block mapping. -/
def readBlockPairs (handles : TagHandles) : Nat → Read (List (Node × Node))
  | 0 => Read.fail
  | fuel + 1 => do
    if ← Read.accept .blockEnd then pure []
    else if ← Read.accept .key then do
      let key ← readUnless handles fuel [.key, .value, .blockEnd] true true
      let value ← readBlockValue handles fuel
      pure ((key, value) :: (← readBlockPairs handles fuel))
    else Read.fail

/-- Reads the value of a pair in a block mapping. -/
def readBlockValue (handles : TagHandles) : Nat → Read Node
  | 0 => Read.fail
  | fuel + 1 => do
    if ← Read.accept .value then readUnless handles fuel [.key, .value, .blockEnd] true true
    else pure (.absent none)

/-- Reads the members of a flow sequence. A comma may follow the last one. A pair stands for a
mapping of its own. -/
def readFlowItems (handles : TagHandles) : Nat → Bool → Read (List Node)
  | 0, _ => Read.fail
  | fuel + 1, first => do
    if ← Read.accept .flowSequenceEnd then pure []
    else if !first && !(← Read.accept .flowEntry) then Read.fail
    else if ← Read.accept .flowSequenceEnd then pure []
    else do
      let item ←
        if ← Read.accept .key then readFlowPair handles fuel
        else readNode handles fuel false false
      pure (item :: (← readFlowItems handles fuel false))

/-- Reads a pair that is a member of a flow sequence. Where its key is absent, the token that shows
this is passed over. -/
def readFlowPair (handles : TagHandles) : Nat → Read Node
  | 0 => Read.fail
  | fuel + 1 => do
    let stops : List Token := [.flowEntry, .flowSequenceEnd]
    let key ←
      if ← Read.isNext (.value :: stops) then do
        Read.drop
        pure (.absent none)
      else readNode handles fuel false false
    let value ←
      if ← Read.accept .value then readUnless handles fuel stops false false
      else pure (.absent none)
    pure (.mapping [(key, value)])

/-- Reads the pairs of a flow mapping. A comma may follow the last one. -/
def readFlowPairs (handles : TagHandles) : Nat → Bool → Read (List (Node × Node))
  | 0, _ => Read.fail
  | fuel + 1, first => do
    let stops : List Token := [.flowEntry, .flowMappingEnd]
    if ← Read.accept .flowMappingEnd then pure []
    else if !first && !(← Read.accept .flowEntry) then Read.fail
    else if ← Read.accept .flowMappingEnd then pure []
    else do
      let pair ←
        if ← Read.accept .key then do
          let key ← readUnless handles fuel (.value :: stops) false false
          let value ←
            if ← Read.accept .value then readUnless handles fuel stops false false
            else pure (.absent none)
          pure (key, value)
        else do
          let key ← readNode handles fuel false false
          pure (key, .absent none)
      pure (pair :: (← readFlowPairs handles fuel false))

end

/-- A document: its node, and what the references in it refer to. -/
structure Document where
  root : Node
  anchors : Anchors
  deriving Repr

/-- The node itself, or the one that it refers to. -/
def Document.resolve (document : Document) : Node → Option Node
  | .reference number => document.anchors.node? number
  | node => some node

/-- Reads the directives before a document: whether the version is given, and the handles. A
directive is given only once. -/
def readDirectives (versioned : Bool) (handles : TagHandles) :
    List Token → Option (Bool × TagHandles × List Token)
  | .version major minor :: rest =>
    if versioned || major ≠ 1 || (minor ≠ 1 && minor ≠ 2) then none
    else readDirectives true handles rest
  | .tagHandle handle start :: rest =>
    if handles.any fun entry => entry.1 = handle then none
    else readDirectives versioned (handles ++ [(handle, start)]) rest
  | rest => some (versioned, handles, rest)

/-- Reads the node of a document, and makes sure that nothing follows it. -/
def readRoot (handles : TagHandles) (empty : Bool) (tokens : List Token) : Option Document := do
  let (root, progress) ←
    if empty then some (Node.absent none, { tokens })
    else
      (readNode (handles ++ standardHandles) (4 * tokens.length + 4) true false).run { tokens }
  if progress.tokens.all (· = .documentEnd) then some ⟨root, progress.anchors⟩ else none

/-- Reads the only document of a list of tokens. -/
def readDocument (tokens : List Token) : Option Document := do
  let (versioned, handles, rest) ← readDirectives false [] tokens
  match rest with
  | .documentStart :: rest =>
    let empty :=
      match rest with
      | [] | .documentEnd :: _ => true
      | _ => false
    readRoot handles empty rest
  | rest =>
    if versioned || !handles.isEmpty then none else readRoot [] rest.isEmpty rest

/-- The only document of a text. -/
def read (text : Text) : Option Document := (scan text).bind readDocument

end Tangle.Yaml
