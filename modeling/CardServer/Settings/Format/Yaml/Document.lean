import CardServer.Settings.Format.Yaml.Node
import CardServer.Settings.Format.Yaml.Token

/-! # The documents of a file of blocks

The tokens of a file make up documents of one node each.  What is missing is an empty scalar.  Of the
repeated keys of a file the first is reported, but only if nothing else is wrong.

* `documents`   the nodes of the documents of a file
-/

namespace CardServer.Settings.Format.Yaml

/-- The state while tokens are put together. -/
structure Assembly where
  tokens : List Placed
  /-- What the tokens end with instead of the end of the file. -/
  fault : Option Fault
  /-- What the handle of the last directive stands for, if there is one. -/
  handles : List (String × String) := []
  /-- The anchors of the document by name; the last one of a name counts. -/
  names : List (String × Nat) := []
  /-- How many anchors there have been. -/
  anchors : Nat := 0
  /-- The nodes of the anchors. -/
  nodes : List (Nat × Node) := []
  /-- The first repeated key. -/
  repeated : Option Fault := none

/-- A step of putting tokens together. -/
abbrev Assemble (α : Type) := StateT Assembly (Except Fault) α

/-- A node, with the place where it is complete. -/
structure Complete where
  node : Node
  mark : Mark

/-- The entries of a mapping so far, the last one first, and a key that waits for its value. -/
structure Pairing where
  key : Option Node := none
  entries : List (Node × Node) := []

/-- The mapping of some entries. -/
def Pairing.node (pairing : Pairing) : Node := .mapping pairing.entries.reverse

namespace Assemble

/-- The next token, left where it is. -/
def peek : Assemble Placed := do
  let assembly ← get
  match assembly.tokens with
  | placed :: _ => return placed
  | [] => throw (assembly.fault.getD ⟨.nothingExpected, {}⟩)

/-- Passes the next token. -/
def pass : Assemble Unit := modify fun assembly => { assembly with tokens := assembly.tokens.drop 1 }

/-- Whether the next token is one of some signs. -/
def isNext (signs : List Sign) : Assemble Bool := do
  let placed ← peek
  return signs.any placed.is

/-- Stops at the next token. -/
def fail {α : Type} (trouble : Trouble) : Assemble α := do throw ⟨trouble, (← peek).mark⟩

/-! ## Properties -/

/-- What comes in front of a node. -/
structure Properties where
  anchor : Option Nat := none
  tag : Option (String × String) := none

/-- What a tag stands for in full. -/
def resolve (mark : Mark) (handle suffix : String) : Assemble (String × String) := do
  let handles := (← get).handles
  match handles.lookup handle with
  | some start => return (start, suffix)
  | none =>
    if handle = "!!" then
      return (Node.knownTags, suffix)
    if 2 ≤ handle.length ∧ handle.startsWith "!" ∧ handle.endsWith "!" then
      throw ⟨.unknownHandle, mark⟩
    return (handle, suffix)

/-- Gives an anchor its number. -/
def register (name : String) : Assemble Nat := do
  let assembly ← get
  set { assembly with
    names := (name, assembly.anchors + 1) :: assembly.names
    anchors := assembly.anchors + 1 }
  return assembly.anchors + 1

/-- Passes an anchor and a tag in any order, if they are next. -/
def properties : Assemble Properties := do
  let first ← peek
  match first.token with
  | .anchor name =>
    pass
    let anchor ← register name
    match (← peek).token with
    | .tag handle suffix =>
      pass
      return ⟨anchor, ← resolve first.mark handle suffix⟩
    | _ => return ⟨anchor, none⟩
  | .tag handle suffix =>
    pass
    let tag ← resolve first.mark handle suffix
    match (← peek).token with
    | .anchor name =>
      pass
      return ⟨← register name, tag⟩
    | _ => return ⟨none, tag⟩
  | _ => return {}

/-- Keeps a complete node for the aliases of its anchor. -/
def keep (properties : Properties) (complete : Complete) : Assemble Complete := do
  match properties.anchor with
  | some anchor =>
    modify fun assembly => { assembly with nodes := (anchor, complete.node) :: assembly.nodes }
  | none => pure ()
  return complete

/-- The node of an alias: that of its anchor, if it is complete. -/
def aliased (mark : Mark) (name : String) : Assemble Complete := do
  let assembly ← get
  match assembly.names.lookup name with
  | none => throw ⟨.unknownAnchor, mark⟩
  | some anchor => return ⟨(assembly.nodes.lookup anchor).getD .unfit, mark⟩

/-- The node of a scalar. -/
def scalar (properties : Properties) (isPlain : Bool) (text : String) : Node :=
  if !isPlain then .text text
  else
    match properties.tag with
    | some (handle, suffix) => .ofTagged handle suffix text
    | none => .ofPlain text

/-- An empty scalar where the next token is. -/
def missing : Assemble Complete := do return ⟨.null, (← peek).mark⟩

/-! ## Mappings -/

/-- Adds a node to a mapping: as a key, or as the value of the key that waits for one.  What does not
    fit its tag is no key. -/
def add (complete : Complete) (pairing : Pairing) : Assemble Pairing := do
  match pairing.key, complete.node with
  | none, .unfit => return pairing
  | none, key => return { pairing with key := some key }
  | some key, value =>
    if pairing.entries.any fun entry => entry.1.shown = key.shown then
      let fault : Fault := ⟨.repeatedKey key.shown, complete.mark⟩
      modify fun assembly => { assembly with repeated := assembly.repeated.or (some fault) }
    return { key := none, entries := (key, value) :: pairing.entries }

mutual

/-- Takes a node.  Outside flow collections it may be a block collection, and as a key or a value of a
    mapping a sequence that is not indented. -/
def node (steps : Nat) (inBlock inMapping : Bool) : Assemble Complete := do
  match steps with
  | 0 => fail .nodeExpected
  | steps + 1 =>
    let first ← peek
    match first.token with
    | .alias name =>
      pass
      aliased first.mark name
    | _ =>
      let properties ← properties
      let placed ← peek
      match placed.token with
      | .scalar isPlain text =>
        pass
        keep properties ⟨scalar properties isPlain text, placed.mark⟩
      | .sign .blockEntry =>
        if inMapping then
          let (items, mark) ← looseItems steps
          keep properties ⟨.sequence items, mark⟩
        else
          empty properties
      | .sign .flowSequenceStart =>
        pass
        let (items, mark) ← flowItems steps true
        keep properties ⟨.sequence items, mark⟩
      | .sign .flowMappingStart =>
        pass
        let (pairing, mark) ← flowEntries steps true {}
        keep properties ⟨pairing.node, mark⟩
      | .sign .blockSequenceStart =>
        if inBlock then
          pass
          let (items, mark) ← blockItems steps
          keep properties ⟨.sequence items, mark⟩
        else
          empty properties
      | .sign .blockMappingStart =>
        if inBlock then
          pass
          let (pairing, mark) ← blockEntries steps {}
          keep properties ⟨pairing.node, mark⟩
        else
          empty properties
      | _ => empty properties

/-- The empty scalar behind an anchor or a tag. -/
def empty (properties : Properties) : Assemble Complete := do
  let mark := (← peek).mark
  if properties.anchor.isNone ∧ properties.tag.isNone then fail .nodeExpected
  keep properties ⟨scalar properties true "", mark⟩

/-- Takes the items of a sequence in a block. -/
def blockItems (steps : Nat) : Assemble (List Node × Mark) := do
  match steps with
  | 0 => fail .dashExpected
  | steps + 1 =>
    let placed ← peek
    if placed.is .blockEnd then
      pass
      return ([], placed.mark)
    if !placed.is .blockEntry then fail .dashExpected
    pass
    let item ←
      if ← isNext [.blockEntry, .blockEnd] then missing else node steps true false
    let (items, mark) ← blockItems steps
    return (item.node :: items, mark)

/-- Takes the items of a sequence that is indented no further than the mapping around it. -/
def looseItems (steps : Nat) : Assemble (List Node × Mark) := do
  match steps with
  | 0 => fail .dashExpected
  | steps + 1 =>
    let placed ← peek
    if !placed.is .blockEntry then
      return ([], placed.mark)
    pass
    let item ←
      if ← isNext [.blockEntry, .key, .value, .blockEnd] then missing else node steps true false
    let (items, mark) ← looseItems steps
    return (item.node :: items, mark)

/-- Takes the entries of a mapping in a block. -/
def blockEntries (steps : Nat) (pairing : Pairing) : Assemble (Pairing × Mark) := do
  match steps with
  | 0 => fail .keyOfBlockExpected
  | steps + 1 =>
    let ends : List Sign := [.key, .value, .blockEnd]
    let placed ← peek
    if placed.is .blockEnd then
      pass
      return (pairing, placed.mark)
    let key ←
      if placed.is .key then do
        pass
        if ← isNext ends then missing else node steps true true
      else if placed.is .value then missing
      else fail .keyOfBlockExpected
    let pairing ← add key pairing
    let value ←
      if ← isNext [.value] then do
        pass
        if ← isNext ends then missing else node steps true true
      else missing
    blockEntries steps (← add value pairing)

/-- Takes the items of a sequence in brackets. -/
def flowItems (steps : Nat) (isFirst : Bool) : Assemble (List Node × Mark) := do
  match steps with
  | 0 => fail .flowSequenceEnd
  | steps + 1 =>
    if !isFirst ∧ !(← isNext [.flowSequenceEnd]) then
      if !(← isNext [.flowEntry]) then fail .flowSequenceEnd
      pass
    let placed ← peek
    if placed.is .flowSequenceEnd then
      pass
      return ([], placed.mark)
    let item ←
      if placed.is .key then do
        pass
        flowPair steps
      else do
        pure (← node steps false false).node
    let (items, mark) ← flowItems steps false
    return (item :: items, mark)

/-- Takes an item of a sequence in brackets that is a mapping without braces. -/
def flowPair (steps : Nat) : Assemble Node := do
  match steps with
  | 0 => fail .nodeExpected
  | steps + 1 =>
    let key ←
      if ← isNext [.value, .flowEntry, .flowSequenceEnd] then do
        let key ← missing
        pass
        pure key
      else node steps false false
    let pairing ← add key {}
    let value ←
      if ← isNext [.value] then do
        pass
        if ← isNext [.flowEntry, .flowSequenceEnd] then missing else node steps false false
      else missing
    return (← add value pairing).node

/-- Takes the entries of a mapping in braces. -/
def flowEntries (steps : Nat) (isFirst : Bool) (pairing : Pairing) :
    Assemble (Pairing × Mark) := do
  match steps with
  | 0 => fail .flowMappingEnd
  | steps + 1 =>
    let start ← peek
    if !isFirst ∧ !start.is .flowMappingEnd then
      if !start.is .flowEntry then fail .flowMappingEnd
      pass
    let placed ← peek
    if placed.is .flowMappingEnd then
      pass
      return (pairing, start.mark)
    let ends : List Sign := [.flowEntry, .flowMappingEnd]
    if placed.is .key ∨ placed.is .value then
      let key ←
        if placed.is .value then missing
        else do
          pass
          if ← isNext (.value :: ends) then missing else node steps false false
      let pairing ← add key pairing
      let next ← peek
      let value ←
        if next.is .value then do
          pass
          if ← isNext ends then pure ⟨.null, next.mark⟩ else node steps false false
        else missing
      flowEntries steps false (← add value pairing)
    else
      let pairing ← add (← node steps false false) pairing
      flowEntries steps false (← add (← missing) pairing)

end

/-! ## Documents -/

/-- Passes the directives in front of a document; only the last one counts. -/
def directives (steps : Nat) (hasVersion : Bool) : Assemble Unit := do
  match steps with
  | 0 => return
  | steps + 1 =>
    match (← peek).token with
    | .sign .version =>
      if hasVersion then fail .secondVersion
      modify ({ · with handles := [] })
      pass
      directives steps true
    | .tagDirective handle start =>
      modify ({ · with handles := [(handle, start)] })
      pass
      directives steps hasVersion
    | _ => return

/-- Whether the next token is a directive. -/
def isDirectiveNext : Assemble Bool := do
  match (← peek).token with
  | .sign .version => return true
  | .tagDirective .. => return true
  | _ => return false

/-- Takes the node of a document behind its start. -/
def content (steps : Nat) : Assemble Node := do
  if (← isDirectiveNext) || (← isNext [.documentStart, .documentEnd, .streamEnd]) then
    return .null
  return (← node steps true false).node

/-- Passes the marks of ended documents. -/
def passEnds (steps : Nat) : Assemble Unit := do
  match steps with
  | 0 => return
  | steps + 1 =>
    if ← isNext [.documentEnd] then
      pass
      passEnds steps

/-- Takes documents; the first one, and one behind the end of another, needs no mark at its start. -/
def documents (steps : Nat) (bare : Bool) : Assemble (List Node) := do
  match steps with
  | 0 => return []
  | steps + 1 =>
    passEnds steps
    if ← isNext [.streamEnd] then
      return []
    modify ({ · with names := [] })
    let isMarked := (← isDirectiveNext) || (← isNext [.documentStart])
    let root ←
      if bare && !isMarked then do
        pure (← node steps true false).node
      else do
        directives steps false
        if !(← isNext [.documentStart]) then fail .documentStart
        pass
        content steps
    let isEnded ← isNext [.documentEnd]
    if isEnded then
      pass
    else if ← isDirectiveNext then
      fail .directiveBeforeEnd
    modify ({ · with handles := [] })
    return root :: (← documents steps isEnded)

end Assemble

/-- The nodes of the documents that some tokens make up, or what is wrong with them. -/
def documents (tokens : List Placed) (fault : Option Fault) : Except Fault (List Node) :=
  match (Assemble.documents (4 * tokens.length + 8) true).run { tokens, fault } with
  | .error fault => .error fault
  | .ok (nodes, assembly) =>
    match assembly.repeated with
    | some fault => .error fault
    | none => .ok nodes

end CardServer.Settings.Format.Yaml
