import Signpost.Yaml.Lexer

/-!
Nodes of a document, built from its tokens by descent over the grammar.  An
alias holds the number of its anchor.  Numbers are handed out in the order of
the text, each the count of names known so far, so an anchor whose name is used
again takes a number that a later name may take as well; of the nodes with one
number the last begun is meant.
-/

namespace Signpost.Yaml

/-- A node of a document. -/
inductive Node where
  | scalar (tag : Option Tag) (plain : Bool) (text : List Char)
  | sequence (tag : Option Tag) (items : List Node)
  | mapping (tag : Option Tag) (entries : List (Node × Node))
  | aliasOf (anchor : Nat)
deriving Repr, Inhabited

namespace Node

/-- The node that stands where nothing is written. -/
def empty : Node := .scalar none true []

mutual

/-- How many marks a node consists of: one for a scalar or an alias, two more
than its parts for a collection. -/
def weight : Node → Nat
  | scalar _ _ _ => 1
  | aliasOf _ => 1
  | sequence _ items => weightItems items + 2
  | mapping _ entries => weightEntries entries + 2

def weightItems : List Node → Nat
  | [] => 0
  | item :: rest => weight item + weightItems rest

def weightEntries : List (Node × Node) → Nat
  | [] => 0
  | (key, value) :: rest => weight key + weight value + weightEntries rest

end

end Node

/-- What descent over the grammar carries along: the tokens left, the tag
handles in force, the number of each anchor name, how many anchors have begun,
and of every anchored node when it began, its number, and the node. -/
structure Reader where
  tokens : List Token
  handles : List (List Char × Tag)
  numbers : List (List Char × Nat)
  begun : Nat
  anchored : List (Nat × Nat × Node)

/-- A step of the descent; it fails where the tokens fit no rule. -/
abbrev ReaderM := StateT Reader Option

namespace Reader

/-- The handles every document knows. -/
def standardHandles : List (List Char × Tag) :=
  [(['!'], .ofChars ['!']), (['!', '!'], .core "")]

/-- Before the first token. -/
def start (tokens : List Token) : Reader := ⟨tokens, [], [], 0, []⟩

/-- The next token. -/
def peek : ReaderM (Option Token) := return (← get).tokens.head?

/-- Drop the next token. -/
def advance : ReaderM Unit := modify fun r => { r with tokens := r.tokens.drop 1 }

/-- Drop the next token if it is `t`, and say so. -/
def accept (t : Token) : ReaderM Bool := do
  if (← peek) = some t then
    advance
    return true
  else return false

/-- The next token is one of these, or there is none and that is asked for. -/
def sees (ts : List Token) : ReaderM Bool := do
  match ← peek with
  | some t => return ts.contains t
  | none => return false

/-- Drop the comma that stands before every part of a collection but the first. -/
def comma (first : Bool) : ReaderM Unit := do
  if first then return ()
  else if ← accept .flowEntry then return ()
  else failure

/-- The tag that a handle and a suffix spell. -/
def spellTag (handle : List Char) (suffix : Tag) : ReaderM Tag := do
  if handle.isEmpty then return suffix
  else
    match (← get).handles.lookup handle with
    | some meaning => return meaning.join suffix
    | none => failure

/-- The anchor and the tag before a node, in either order. -/
def properties : ReaderM (Option (List Char) × Option Tag) := do
  let anchor ← takeAnchor
  let tag ← takeTag
  let anchor ← if anchor.isSome then pure anchor else takeAnchor
  return (anchor, tag)
where
  takeAnchor : ReaderM (Option (List Char)) := do
    match ← peek with
    | some (.anchor name) => advance; return some name
    | _ => return none
  takeTag : ReaderM (Option Tag) := do
    match ← peek with
    | some (.tag handle suffix) => advance; return some (← spellTag handle suffix)
    | _ => return none

/-- Hand out the number of an anchor. -/
def beginAnchor (name : List Char) : ReaderM (Nat × Nat) := do
  let r ← get
  let number := r.numbers.length
  let known := r.numbers.filter (·.1 != name)
  set { r with numbers := (name, number) :: known, begun := r.begun + 1 }
  return (r.begun, number)

/-- The node of an alias. -/
def aliasNode (name : List Char) : ReaderM Node := do
  match (← get).numbers.lookup name with
  | some number => return .aliasOf number
  | none => failure

mutual

/-- A node.  Block collections are looked for where `block` holds, and a
sequence without indentation of its own where `bare` does. -/
def node : Nat → (block bare : Bool) → ReaderM Node
  | 0, _, _ => failure
  | rounds + 1, block, bare => do
      match ← peek with
      | some (.aliasOf name) => advance; aliasNode name
      | _ =>
          let (anchor, tag) ← properties
          match anchor with
          | none => content rounds block bare false tag
          | some name =>
              let (order, number) ← beginAnchor name
              let result ← content rounds block bare true tag
              modify fun r => { r with anchored := (order, number, result) :: r.anchored }
              return result

/-- What a node holds, behind its anchor and tag. -/
def content : Nat → (block bare anchored : Bool) → Option Tag → ReaderM Node
  | 0, _, _, _, _ => failure
  | rounds + 1, block, bare, anchored, tag => do
      match ← peek with
      | some (.scalar plain text) =>
          advance
          return .scalar tag plain text
      | some .entry =>
          if bare then return .sequence tag (← bareItems rounds)
          else missing anchored tag
      | some .flowSequenceStart => advance; return .sequence tag (← flowItems rounds true)
      | some .flowMappingStart => advance; return .mapping tag (← flowEntries rounds true)
      | some .sequenceStart =>
          if block then
            advance
            return .sequence tag (← blockItems rounds)
          else missing anchored tag
      | some .mappingStart =>
          if block then
            advance
            return .mapping tag (← blockEntries rounds)
          else missing anchored tag
      | _ => missing anchored tag

/-- The empty node that an anchor or a tag may stand before. -/
def missing (anchored : Bool) (tag : Option Tag) : ReaderM Node := do
  if anchored || tag.isSome then return .scalar tag true [] else failure

/-- The items of an indented sequence. -/
def blockItems : Nat → ReaderM (List Node)
  | 0 => failure
  | rounds + 1 => do
      if ← accept .blockEnd then return []
      else if ← accept .entry then
        let item ←
          if ← sees [.entry, .blockEnd] then pure Node.empty else node rounds true false
        return item :: (← blockItems rounds)
      else failure

/-- The items of a sequence that shares the indentation of the mapping around it. -/
def bareItems : Nat → ReaderM (List Node)
  | 0 => failure
  | rounds + 1 => do
      if ← accept .entry then
        let item ←
          if ← sees [.entry, .key, .value, .blockEnd] then pure Node.empty
          else node rounds true false
        return item :: (← bareItems rounds)
      else return []

/-- The entries of an indented mapping. -/
def blockEntries : Nat → ReaderM (List (Node × Node))
  | 0 => failure
  | rounds + 1 => do
      if ← accept .blockEnd then return []
      else if ← accept .key then
        let key ← blockPart rounds
        let value ← if ← accept .value then blockPart rounds else pure Node.empty
        return (key, value) :: (← blockEntries rounds)
      else failure

/-- A key or a value of an indented mapping. -/
def blockPart : Nat → ReaderM Node
  | 0 => failure
  | rounds + 1 => do
      if ← sees [.key, .value, .blockEnd] then return Node.empty else node rounds true true

/-- The items of a sequence in brackets. -/
def flowItems : Nat → (first : Bool) → ReaderM (List Node)
  | 0, _ => failure
  | rounds + 1, first => do
      if ← accept .flowSequenceEnd then return []
      else
        comma first
        if ← accept .flowSequenceEnd then return []
        else
          let item ← if ← accept .key then flowPair rounds else node rounds false false
          return item :: (← flowItems rounds false)

/-- A mapping of one entry among the items of a sequence in brackets.  Where
its key is empty the mark behind the key is passed over. -/
def flowPair : Nat → ReaderM Node
  | 0 => failure
  | rounds + 1 => do
      let key ←
        if ← sees [.value, .flowEntry, .flowSequenceEnd] then
          advance
          pure Node.empty
        else node rounds false false
      let value ←
        if ← accept .value then
          if ← sees [.flowEntry, .flowSequenceEnd] then pure Node.empty
          else node rounds false false
        else pure Node.empty
      return .mapping none [(key, value)]

/-- The entries of a mapping in braces. -/
def flowEntries : Nat → (first : Bool) → ReaderM (List (Node × Node))
  | 0, _ => failure
  | rounds + 1, first => do
      if ← accept .flowMappingEnd then return []
      else
        comma first
        if ← accept .flowMappingEnd then return []
        else
          let marked ← accept .key
          let key ←
            if marked then
              if ← sees [.value, .flowEntry, .flowMappingEnd] then pure Node.empty
              else node rounds false false
            else node rounds false false
          let valued ← if marked then accept .value else pure false
          let value ←
            if valued then
              if ← sees [.flowEntry, .flowMappingEnd] then pure Node.empty
              else node rounds false false
            else pure Node.empty
          return (key, value) :: (← flowEntries rounds false)

end

/-- The directives before a document: versions other than 1.1 and 1.2 are
refused, as is a second version and a second meaning of a handle. -/
def directives : Nat → (versioned : Bool) → List (List Char × Tag) →
    ReaderM (List (List Char × Tag))
  | 0, _, _ => failure
  | rounds + 1, versioned, handles => do
      match ← peek with
      | some (.version major minor) =>
          if versioned || major != 1 || (minor != 1 && minor != 2) then failure
          advance
          directives rounds true handles
      | some (.tagHandle handle meaning) =>
          if (handles.lookup handle).isSome then failure
          advance
          directives rounds versioned (handles ++ [(handle, meaning)])
      | _ => return handles

/-- The root node of a document whose start is marked; it may be left out. -/
def markedRoot (rounds : Nat) : ReaderM Node := do
  match ← peek with
  | none => return Node.empty
  | some (.version _ _) => return Node.empty
  | some (.tagHandle _ _) => return Node.empty
  | some .documentStart => return Node.empty
  | some .documentEnd => return Node.empty
  | _ => node rounds true false

/-- Drop the marks of a document's end. -/
def skipDocumentEnds : ReaderM Unit :=
  modify fun r => { r with tokens := r.tokens.dropWhile (· = .documentEnd) }

/-- The root node of the only document, or nothing for an empty text. -/
def document : ReaderM (Option Node) := do
  let tokens := (← get).tokens
  let rounds := 4 * tokens.length + 16
  match tokens.head? with
  | none => return none
  | some first =>
      let explicit :=
        match first with
        | .version _ _ => true
        | .tagHandle _ _ => true
        | .documentStart => true
        | _ => false
      let handles ← directives rounds false []
      modify fun r => { r with handles := handles ++ standardHandles }
      let root ←
        if explicit then do
          if !(← accept .documentStart) then failure
          markedRoot rounds
        else node rounds true false
      skipDocumentEnds
      if (← get).tokens.isEmpty then return some root else failure

end Reader

/-- The tree of a document and the nodes its aliases stand for. -/
structure Tree where
  root : Node
  anchored : List (Nat × Nat × Node)

/-- The anchored node with a number; of several the last begun. -/
def Tree.anchor? (tree : Tree) (number : Nat) : Option Node :=
  let found := tree.anchored.filter (·.2.1 == number)
  let last := found.foldl (fun order node => max order node.1) 0
  (found.find? (·.1 == last)).map (·.2.2)

/-- The tree of the only document of a text; `some none` for an empty text, and
nothing where the text is ill-formed or holds more than one document. -/
def tree? (text : List Char) : Option (Option Tree) := do
  let tokens ← tokens? text
  let (root, reader) ← Reader.document.run (Reader.start tokens)
  return root.map fun node => ⟨node, reader.anchored⟩

end Signpost.Yaml
