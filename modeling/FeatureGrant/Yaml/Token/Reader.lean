import FeatureGrant.Yaml.Token.Scalar

/-!
# Reading tokens

Cuts a text into tokens.  Whether something is a key shows only at the colon
behind it, which must be in the same line and not too far away; its token is
put in place then.
-/

namespace FeatureGrant.Yaml

/-- Something that turns out to be a key if a colon follows it: the number of
tokens before it, and its place. It must be one where a line of a block starts
with it. -/
structure KeyCandidate where
  tokens : Nat
  required : Bool
  index : Nat
  line : Nat
  column : Nat

/-- How far a text is read: the place, the tokens, the depth of flow
collections, the columns of the block collections that are open, whether a key
may start here, and what may turn out to be one at each depth. -/
structure Reading where
  cursor : Cursor
  tokens : Array Token
  depth : Nat
  indent : Int
  outer : List Int
  keyAllowed : Bool
  candidates : List (Nat × KeyCandidate)

namespace Reading

/-- The start of a text. -/
def start (s : List Char) : Reading :=
  { cursor := .start s, tokens := #[], depth := 0, indent := -1, outer := []
    keyAllowed := true, candidates := [] }

/-- Whether a flow collection is open. -/
def inFlow (r : Reading) : Bool := r.depth != 0

/-- Adds a token. -/
def emit (r : Reading) (t : Token) : Reading := { r with tokens := r.tokens.push t }

/-- Puts tokens before those behind the first `place` ones. -/
def emitAt (r : Reading) (place : Nat) (ts : Array Token) : Reading :=
  { r with tokens := r.tokens.extract 0 place ++ ts ++ r.tokens.extract place r.tokens.size }

/-- Moves behind the next `n` characters. -/
def skip (r : Reading) (n : Nat) : Reading := { r with cursor := r.cursor.advanceBy n }

/-- Skips white space and comments before a token. -/
def skipToToken : (fuel : Nat) → Reading → Reading
  | 0, r => r
  | fuel + 1, r =>
    let c := r.cursor.skipWhile (· == ' ')
    let c := if c.peek? == some '#' then c.skipWhile (!isBreak ·) else c
    match c.takeBreak with
    | (none, _) => { r with cursor := c }
    | (some _, c) =>
      skipToToken fuel { r with cursor := c, keyAllowed := r.keyAllowed || !r.inFlow }

/-- Drops the candidates that are in another line or too far away. -/
def dropStale (r : Reading) : Except Fault Reading :=
  let isStale := fun (k : KeyCandidate) =>
    k.line != r.cursor.line || 1024 < r.cursor.index - k.index
  if r.candidates.any fun (_, k) => isStale k && k.required then .error .malformed
  else .ok { r with candidates := r.candidates.filter fun (_, k) => !isStale k }

/-- Drops the candidate at the current depth. -/
def dropCandidate (r : Reading) : Except Fault Reading :=
  match r.candidates.lookup r.depth with
  | none => .ok r
  | some k =>
    if k.required then .error .malformed
    else .ok { r with candidates := r.candidates.filter (·.1 != r.depth) }

/-- Takes what starts here for a candidate, if a key may start here. -/
def saveCandidate (r : Reading) : Except Fault Reading :=
  if !r.keyAllowed then .ok r
  else do
    let c := r.cursor
    let required := !r.inFlow && r.indent == (c.column : Int)
    let k : KeyCandidate :=
      { tokens := r.tokens.size, required, index := c.index, line := c.line
        column := c.column }
    let r ← r.dropCandidate
    .ok { r with candidates := (r.depth, k) :: r.candidates }

/-- Ends the block collections that are indented by more than `column`. -/
def unwind (r : Reading) (column : Int) : Reading :=
  if r.inFlow then r
  else
    let closed := (r.indent :: r.outer).takeWhile (column < ·)
    match (r.indent :: r.outer).drop closed.length with
    | indent :: outer =>
      { r with indent, outer
               tokens := r.tokens ++ (closed.map fun _ => Token.blockEnd).toArray }
    | [] => r

/-- Whether a collection at a column would be indented by more than the
current one. -/
def isDeeper (r : Reading) (column : Nat) : Bool := r.indent < (column : Int)

/-- Opens a block collection at a column. -/
def enter (r : Reading) (column : Nat) : Reading :=
  { r with indent := column, outer := r.indent :: r.outer }

/-- Opens a block collection here if it is indented by more than the current
one. -/
def openHere (r : Reading) (t : Token) : Reading :=
  if r.isDeeper r.cursor.column then (r.enter r.cursor.column).emit t else r

/-- Whether an indicator stands here with white space behind it. -/
def standsAlone (r : Reading) : Bool := endsOr isSeparator (r.cursor.rest.drop 1)

/-- Ends the text. -/
def readEnd (r : Reading) : Except Fault Reading := do
  let r ← (r.unwind (-1)).dropCandidate
  .ok { r.emit .streamEnd with keyAllowed := false, candidates := [] }

/-- Reads a directive. -/
def readDirectiveToken (r : Reading) : Except Fault Reading := do
  let r ← (r.unwind (-1)).dropCandidate
  let (directive, c) ← readDirective r.cursor
  .ok { r.emit (.directive directive) with keyAllowed := false, cursor := c }

/-- Reads the marker of the start or the end of a document. -/
def readMarker (r : Reading) (t : Token) : Except Fault Reading := do
  let r ← (r.unwind (-1)).dropCandidate
  .ok { (r.skip 3).emit t with keyAllowed := false }

/-- Reads the start of a flow collection. -/
def readFlowStart (r : Reading) (t : Token) : Except Fault Reading := do
  let r ← r.saveCandidate
  .ok { (r.skip 1).emit t with depth := r.depth + 1, keyAllowed := true }

/-- Reads the end of a flow collection. -/
def readFlowEnd (r : Reading) (t : Token) : Except Fault Reading := do
  let r ← r.dropCandidate
  if r.inFlow then .ok { (r.skip 1).emit t with depth := r.depth - 1, keyAllowed := false }
  else .error .malformed

/-- Reads the comma in a flow collection. -/
def readFlowEntry (r : Reading) : Except Fault Reading := do
  let r ← r.dropCandidate
  .ok { (r.skip 1).emit .flowEntry with keyAllowed := true }

/-- Reads the mark of an item of a block sequence. -/
def readBlockEntry (r : Reading) : Except Fault Reading := do
  if !r.inFlow && !r.keyAllowed then .error .malformed
  let r := if r.inFlow then r else r.openHere .blockSequenceStart
  let r ← r.dropCandidate
  .ok { (r.skip 1).emit .blockEntry with keyAllowed := true }

/-- Reads the mark of a key. -/
def readKeyMark (r : Reading) : Except Fault Reading := do
  if !r.inFlow && !r.keyAllowed then .error .malformed
  let r := if r.inFlow then r else r.openHere .blockMappingStart
  let r ← r.dropCandidate
  .ok { (r.skip 1).emit .key with keyAllowed := !r.inFlow }

/-- Reads the mark of a value. The candidate before it turns out to be a
key. -/
def readValueMark (r : Reading) : Except Fault Reading :=
  match r.candidates.lookup r.depth with
  | some k =>
    let r := { r with candidates := r.candidates.filter (·.1 != r.depth) }
    let r :=
      if !r.inFlow && r.isDeeper k.column then
        (r.enter k.column).emitAt k.tokens #[.blockMappingStart, .key]
      else r.emitAt k.tokens #[.key]
    .ok { (r.skip 1).emit .value with keyAllowed := false }
  | none => do
    if !r.inFlow && !r.keyAllowed then .error .malformed
    let r := if r.inFlow then r else r.openHere .blockMappingStart
    let r ← r.dropCandidate
    .ok { (r.skip 1).emit .value with keyAllowed := !r.inFlow }

/-- Reads a token that can start a key. -/
def readContent (r : Reading) (read : Cursor → Except Fault (Token × Cursor)) :
    Except Fault Reading := do
  let r ← r.saveCandidate
  let (t, c) ← read r.cursor
  .ok { r.emit t with cursor := c, keyAllowed := false }

/-- Reads a block scalar. -/
def readBlock (r : Reading) (folded : Bool) : Except Fault Reading := do
  let r ← r.dropCandidate
  let (text, c) ← readBlockScalar folded r.indent r.cursor
  .ok { r.emit (.scalar text false) with cursor := c, keyAllowed := true }

/-- Reads a plain scalar, behind which a key may start in the next line. -/
def readPlainScalar (r : Reading) : Except Fault Reading := do
  let r ← r.saveCandidate
  let c := r.cursor
  let (chars, ended, c) :=
    readPlain r.inFlow (r.indent + 1) [] false (c.rest.length + 1) c
  .ok { r.emit (.scalar ⟨chars, true⟩ true) with cursor := c, keyAllowed := ended }

/-- Whether a plain scalar starts here. -/
def startsPlain (r : Reading) : Bool :=
  match r.cursor.rest with
  | [] => false
  | ch :: _ =>
    !(isSeparator ch || "-?:,[]\x7b\x7d#&*!|>'\"%@\x60".toList.contains ch)
      || (!r.standsAlone && (ch == '-' || (!r.inFlow && (ch == '?' || ch == ':'))))

/-- Reads the token that starts here. -/
def readToken (r : Reading) : Except Fault Reading :=
  let c := r.cursor
  let named := fun (make : String → Token) (c : Cursor) => do
    let (name, c) ← readName c
    .ok (make name, c)
  match c.rest with
  | [] => r.readEnd
  | ch :: _ =>
    if ch == '%' && c.column == 0 then r.readDirectiveToken
    else if c.column == 0 && c.atMarker '-' then r.readMarker .documentStart
    else if c.column == 0 && c.atMarker '.' then r.readMarker .documentEnd
    else if ch == '[' then r.readFlowStart .flowSequenceStart
    else if ch == '\x7b' then r.readFlowStart .flowMappingStart
    else if ch == ']' then r.readFlowEnd .flowSequenceEnd
    else if ch == '\x7d' then r.readFlowEnd .flowMappingEnd
    else if ch == ',' then r.readFlowEntry
    else if ch == '-' && r.standsAlone then r.readBlockEntry
    else if ch == '?' && (r.inFlow || r.standsAlone) then r.readKeyMark
    else if ch == ':' && (r.inFlow || r.standsAlone) then r.readValueMark
    else if ch == '*' then r.readContent (named .aliasOf)
    else if ch == '&' then r.readContent (named .anchor)
    else if ch == '!' then
      r.readContent fun c => do
        let (tag, c) ← readTag c
        .ok (.tag tag, c)
    else if ch == '|' && !r.inFlow then r.readBlock false
    else if ch == '>' && !r.inFlow then r.readBlock true
    else if ch == '\'' || ch == '"' then
      r.readContent fun c => do
        let (text, c) ← readQuotedScalar ch c
        .ok (.scalar text false, c)
    else if r.startsPlain then r.readPlainScalar
    else .error .malformed

/-- Reads tokens up to the end of the text. -/
def readAll : (fuel : Nat) → Reading → Except Fault Reading
  | 0, r => .ok r
  | fuel + 1, r => do
    let r := r.skipToToken (r.cursor.rest.length + 1)
    let r ← r.dropStale
    let r ← (r.unwind r.cursor.column).readToken
    if r.tokens.back? == some .streamEnd then .ok r else r.readAll fuel

end Reading

/-- Whether a character may stand in a text at all. -/
def isAllowed (c : Char) : Bool :=
  let n := c.toNat
  n == 0x9 || n == 0xA || n == 0xD || (0x20 ≤ n && n ≤ 0x7E) || n == 0x85
    || (0xA0 ≤ n && n ≤ 0xD7FF) || (0xE000 ≤ n && n ≤ 0xFFFD) || 0x10000 ≤ n

/-- The tokens of a text, which may start with a byte order mark. -/
def tokens (s : List Char) : Except Fault (List Token) :=
  if s.all isAllowed then do
    let start := Reading.start s
    let start := if s.head? == some '\uFEFF' then start.skip 1 else start
    let r ← start.readAll (s.length + 1)
    .ok r.tokens.toList
  else .error .malformed

end FeatureGrant.Yaml
