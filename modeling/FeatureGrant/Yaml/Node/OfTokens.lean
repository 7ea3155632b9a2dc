import FeatureGrant.Yaml.Node.Basic
import FeatureGrant.Yaml.Token.Reader

/-!
# Nodes of tokens

Puts the tokens of a text together to the tree that they describe.  A text
holds at most one document.
-/

namespace FeatureGrant.Yaml

/-- What is left of the tokens, the handles of tags, and the names of nodes
so far with the nodes that are complete. -/
structure Parsing where
  tokens : List Token
  handles : List (String × String)
  names : List String
  nodes : List (String × Node)

namespace Parsing

/-- Whether the next token is one of some. -/
def isAt (p : Parsing) (ts : List Token) : Bool := p.tokens.head?.any ts.contains

/-- Moves behind the next token. -/
def next (p : Parsing) : Parsing := { p with tokens := p.tokens.drop 1 }

/-- Moves behind a token that must come next. -/
def expect (p : Parsing) (t : Token) : Except Fault Parsing :=
  if p.isAt [t] then .ok p.next else .error .malformed

/-- Names a node that starts here. -/
def name (p : Parsing) (anchor : Option String) : Except Fault Parsing :=
  match anchor with
  | none => .ok p
  | some anchor =>
    if p.names.contains anchor then .error .malformed
    else .ok { p with names := anchor :: p.names }

/-- A node under its name. -/
def close (p : Parsing) (anchor : Option String) (node : Node) : Node × Parsing :=
  match anchor with
  | none => (node, p)
  | some anchor => (.named anchor node, { p with nodes := (anchor, node) :: p.nodes })

/-- The full name of a tag. -/
def tagName (p : Parsing) (tag : TagText) : Except Fault String :=
  match tag.handle with
  | none => .ok tag.suffix
  | some handle =>
    match p.handles.lookup handle with
    | some start => .ok (start ++ tag.suffix)
    | none => .error .malformed

/-- The name and the tag before a node, in either order. -/
def takeProperties (p : Parsing) : Except Fault (Option String × Option String × Parsing) :=
  match p.tokens with
  | .anchor name :: .tag tag :: _ | .tag tag :: .anchor name :: _ => do
    let tag ← p.tagName tag
    .ok (some name, some tag, p.next.next)
  | .anchor name :: _ => .ok (some name, none, p.next)
  | .tag tag :: _ => do
    let tag ← p.tagName tag
    .ok (none, some tag, p.next)
  | _ => .ok (none, none, p)

/-- What a scalar is. The tag `!` leaves it to the scalar's form. -/
def scalarTag (tag : Option String) (text : ScalarText) (plain : Bool) : Tag :=
  match tag with
  | none => if plain then .ofPlain text.chars else .str
  | some "!" => .ofPlain text.chars
  | some name => .ofName name

/-- What a collection is. -/
def collectionTag (tag : Option String) (default : Tag) : Tag :=
  match tag with
  | none | some "!" => default
  | some name => .ofName name

/-- Where a node stands: in a flow collection, in a block, or as the key or
value in a block mapping, where a sequence need not be indented. -/
inductive Context
  | flow
  | block
  | blockEntry
  deriving DecidableEq

mutual

/-- Reads a node. -/
def node (context : Context) : (fuel : Nat) → Parsing → Except Fault (Node × Parsing)
  | 0, _ => .error .malformed
  | fuel + 1, p =>
    match p.tokens with
    | .aliasOf name :: _ =>
      if p.names.contains name then .ok (.aliasOf name, p.next) else .error .malformed
    | _ => do
      let (anchor, tag, p) ← p.takeProperties
      let p ← p.name anchor
      let (node, p) ← content context fuel anchor tag p
      .ok (p.close anchor node)

/-- Reads a node behind its name and tag. -/
def content (context : Context) (fuel : Nat) (anchor tag : Option String) (p : Parsing) :
    Except Fault (Node × Parsing) :=
  match fuel with
  | 0 => .error .malformed
  | fuel + 1 =>
    let inBlock := context != .flow
    match p.tokens with
    | .scalar text plain :: _ => .ok (.scalar (scalarTag tag text plain) text, p.next)
    | .flowSequenceStart :: _ => do
      let (items, p) ← flowItems true fuel p.next
      .ok (.sequence (collectionTag tag .seq) items, p)
    | .flowMappingStart :: _ => do
      let (entries, p) ← flowEntries true fuel p.next
      .ok (.mapping (collectionTag tag .map) entries, p)
    | t :: _ =>
      if context == .blockEntry && t == .blockEntry then do
        let (items, p) ← looseItems fuel p
        .ok (.sequence (collectionTag tag .seq) items, p)
      else if inBlock && t == .blockSequenceStart then do
        let (items, p) ← blockItems fuel p.next
        .ok (.sequence (collectionTag tag .seq) items, p)
      else if inBlock && t == .blockMappingStart then do
        let (entries, p) ← blockEntries fuel p.next
        .ok (.mapping (collectionTag tag .map) entries, p)
      else if anchor.isSome || tag.isSome then
        .ok (.scalar (scalarTag tag ⟨[], true⟩ true) ⟨[], true⟩, p)
      else .error .malformed
    | [] => .error .malformed

/-- Reads a node, unless one of some tokens comes next. -/
def nodeUnless (ends : List Token) (context : Context) (fuel : Nat) (p : Parsing) :
    Except Fault (Node × Parsing) :=
  match fuel with
  | 0 => .error .malformed
  | fuel + 1 => if p.isAt ends then .ok (.absent, p) else node context fuel p

/-- Reads a value, unless there is none or one of some tokens comes next. -/
def valueUnless (ends : List Token) (context : Context) (fuel : Nat) (p : Parsing) :
    Except Fault (Node × Parsing) :=
  match fuel with
  | 0 => .error .malformed
  | fuel + 1 =>
    if p.isAt [.value] then nodeUnless ends context fuel p.next else .ok (.absent, p)

/-- Reads the items of a block sequence. -/
def blockItems (fuel : Nat) (p : Parsing) : Except Fault (List Node × Parsing) :=
  match fuel with
  | 0 => .error .malformed
  | fuel + 1 =>
    if p.isAt [.blockEntry] then do
      let (item, p) ← nodeUnless [.blockEntry, .blockEnd] .block fuel p.next
      let (items, p) ← blockItems fuel p
      .ok (item :: items, p)
    else do
      let p ← p.expect .blockEnd
      .ok ([], p)

/-- Reads the items of a block sequence that is not indented. -/
def looseItems (fuel : Nat) (p : Parsing) : Except Fault (List Node × Parsing) :=
  match fuel with
  | 0 => .error .malformed
  | fuel + 1 =>
    if p.isAt [.blockEntry] then do
      let (item, p) ←
        nodeUnless [.blockEntry, .key, .value, .blockEnd] .block fuel p.next
      let (items, p) ← looseItems fuel p
      .ok (item :: items, p)
    else .ok ([], p)

/-- Reads the entries of a block mapping. -/
def blockEntries (fuel : Nat) (p : Parsing) :
    Except Fault (List (Node × Node) × Parsing) :=
  match fuel with
  | 0 => .error .malformed
  | fuel + 1 =>
    let ends := [Token.key, .value, .blockEnd]
    if p.isAt [.key] then do
      let (key, p) ← nodeUnless ends .blockEntry fuel p.next
      let (value, p) ← valueUnless ends .blockEntry fuel p
      let (entries, p) ← blockEntries fuel p
      .ok ((key, value) :: entries, p)
    else do
      let p ← p.expect .blockEnd
      .ok ([], p)

/-- Reads the items of a flow sequence. A key makes an item a mapping with one
entry. -/
def flowItems (first : Bool) (fuel : Nat) (p : Parsing) :
    Except Fault (List Node × Parsing) :=
  match fuel with
  | 0 => .error .malformed
  | fuel + 1 =>
    if p.isAt [.flowSequenceEnd] then .ok ([], p.next)
    else do
      let p ← if first then .ok p else p.expect .flowEntry
      if p.isAt [.flowSequenceEnd] then .ok ([], p.next)
      else if p.isAt [.key] then do
        let (key, p) ←
          nodeUnless [.value, .flowEntry, .flowSequenceEnd] .flow fuel p.next
        let (value, p) ← valueUnless [.flowEntry, .flowSequenceEnd] .flow fuel p
        let (items, p) ← flowItems false fuel p
        .ok (.mapping .map [(key, value)] :: items, p)
      else do
        let (item, p) ← node .flow fuel p
        let (items, p) ← flowItems false fuel p
        .ok (item :: items, p)

/-- Reads the entries of a flow mapping. -/
def flowEntries (first : Bool) (fuel : Nat) (p : Parsing) :
    Except Fault (List (Node × Node) × Parsing) :=
  match fuel with
  | 0 => .error .malformed
  | fuel + 1 =>
    if p.isAt [.flowMappingEnd] then .ok ([], p.next)
    else do
      let p ← if first then .ok p else p.expect .flowEntry
      if p.isAt [.flowMappingEnd] then .ok ([], p.next)
      else do
        let (entry, p) ←
          if p.isAt [.key] then do
            let (key, p) ←
              nodeUnless [.value, .flowEntry, .flowMappingEnd] .flow fuel p.next
            let (value, p) ← valueUnless [.flowEntry, .flowMappingEnd] .flow fuel p
            .ok ((key, value), p)
          else do
            let (key, p) ← node .flow fuel p
            .ok ((key, Node.absent), p)
        let (entries, p) ← flowEntries false fuel p
        .ok (entry :: entries, p)

end

/-- Reads the directives before a document. Each version and each handle is
given once. -/
def directives (version : Bool) (handles : List (String × String)) :
    List Token → Except Fault (List (String × String) × List Token)
  | .directive (.version major _) :: rest =>
    if version || major != 1 then .error .malformed else directives true handles rest
  | .directive (.tag handle text) :: rest =>
    if (handles.lookup handle).isSome then .error .malformed
    else directives version ((handle, text) :: handles) rest
  | .directive .other :: rest => directives version handles rest
  | rest => .ok (handles, rest)

/-- The handles that need not be declared. -/
def defaultHandles : List (String × String) := [("!", "!"), ("!!", languageTag)]

/-- Skips the markers of the end of a document. -/
def skipEnds : List Token → List Token
  | .documentEnd :: rest => skipEnds rest
  | ts => ts

/-- The tree of a text, with the nodes that are named in it, or nothing if the
text is empty. -/
def document (ts : List Token) : Except Fault (Option (Node × List (String × Node))) := do
  let fuel := 6 * ts.length + 6
  let start := fun handles tokens =>
    ({ tokens, handles, names := [], nodes := [] } : Parsing)
  match ts with
  | [.streamEnd] => .ok none
  | _ => do
    let (root, p) ← match ts with
      | .directive _ :: _ | .documentStart :: _ => do
        let (handles, ts) ← directives false [] ts
        let p ← (start (handles ++ defaultHandles) ts).expect .documentStart
        if p.tokens.head?.any fun t => match t with
            | .directive _ | .documentStart | .documentEnd | .streamEnd => true
            | _ => false
        then .ok (Node.absent, p)
        else node .block fuel p
      | _ => node .block fuel (start defaultHandles ts)
    if skipEnds p.tokens == [.streamEnd] then .ok (some (root, p.nodes))
    else .error .malformed

end Parsing

end FeatureGrant.Yaml
