import FeatureGrant.Yaml.Token.Property

/-!
# The text of scalars

Reads plain, quoted and block scalars.  A single end of a line inside one is
folded into a space, except in a literal block; further ones are kept.
-/

namespace FeatureGrant.Yaml

/-- How many characters of a plain scalar stand at the front of a text, up to
white space or an indicator. -/
def plainLength (inFlow : Bool) : List Char → Nat
  | [] => 0
  | c :: rest =>
    let ends :=
      isSeparator c
        || (c == ':' && endsOr (fun d =>
              isSeparator d || (inFlow && ",[]\x7b\x7d".toList.contains d)) rest)
        || (inFlow && ",?[]\x7b\x7d".toList.contains c)
    if ends then 0 else plainLength inFlow rest + 1

/-- Skips the lines between two parts of a plain scalar: the ends of the lines
that were skipped, unless a document ends or starts behind one of them. -/
def plainBreaks : (fuel : Nat) → Cursor → Option (List Char) × Cursor
  | 0, c => (some [], c)
  | fuel + 1, c =>
    let c := c.skipWhile (· == ' ')
    match c.takeBreak with
    | (none, _) => (some [], c)
    | (some ch, c) =>
      if c.atDocumentMarker then (none, c)
      else
        match plainBreaks fuel c with
        | (some more, c) => (some (ch :: more), c)
        | (none, c) => (none, c)

/-- Folds the end of a line and those of further empty lines. -/
def foldBreaks (first : Char) (more : List Char) : List Char :=
  if first != '\n' then first :: more
  else if more.isEmpty then [' ']
  else more

/-- Skips the space between two parts of a plain scalar: what it stands for,
and whether it ends a line. Without any the scalar ends. -/
def plainSpace (c : Cursor) : List Char × Bool × Cursor :=
  let (spaces, c) := c.takeWhile (· == ' ')
  match c.takeBreak with
  | (none, _) => (spaces, false, c)
  | (some first, c) =>
    if c.atDocumentMarker then ([], true, c)
    else
      match plainBreaks c.rest.length c with
      | (some more, c) => (foldBreaks first more, true, c)
      | (none, c) => ([], true, c)

/-- Reads a plain scalar behind `space`. In a block its further lines are
indented by at least `indent`. The result says whether the scalar ended at the
end of a line. -/
def readPlain (inFlow : Bool) (indent : Int) (space : List Char) (ended : Bool) :
    (fuel : Nat) → Cursor → List Char × Bool × Cursor
  | 0, c => ([], ended, c)
  | fuel + 1, c =>
    let n := if c.peek? == some '#' then 0 else plainLength inFlow c.rest
    if n == 0 then ([], ended, c)
    else
      let part := space ++ c.rest.take n
      let (space, ended, c) := plainSpace (c.advanceBy n)
      if space.isEmpty || c.peek? == some '#' || (!inFlow && (c.column : Int) < indent) then
        (part, ended, c)
      else
        let (more, ended, c) := readPlain inFlow indent space ended fuel c
        (part ++ more, ended, c)

/-- The character that a one-letter escape stands for. -/
def escape? (c : Char) : Option Char :=
  [('0', '\x00'), ('a', '\x07'), ('b', '\x08'), ('t', '\t'), ('\t', '\t'), ('n', '\n'),
   ('v', '\x0b'), ('f', '\x0c'), ('r', '\r'), ('e', '\x1b'), (' ', ' '), ('"', '"'),
   ('\\', '\\'), ('/', '/'), ('N', '\x85'), ('_', '\xa0'), ('L', '\u2028'),
   ('P', '\u2029')].lookup c

/-- The number of digits of a numeric escape. -/
def escapeDigits? (c : Char) : Option Nat :=
  [('x', 2), ('u', 4), ('U', 8)].lookup c

/-- The character with a code point, or half of one. -/
def charOf (n : Nat) : Except Fault ScalarText :=
  if 0x110000 ≤ n then
    .error (.system "ValueError" "chr() arg not in range(0x110000)")
  else if 0xD800 ≤ n && n ≤ 0xDFFF then .ok ⟨['\uFFFD'], false⟩
  else .ok ⟨[Char.ofNat n], true⟩

/-- Puts text before a scalar's. -/
def ScalarText.prepend (chars : List Char) (t : ScalarText) : ScalarText :=
  { t with chars := chars ++ t.chars }

/-- Skips empty lines in a quoted scalar, which no document may end or
start. -/
def quotedBreaks : (fuel : Nat) → Cursor → Except Fault (List Char × Cursor)
  | 0, c => .ok ([], c)
  | fuel + 1, c =>
    if c.atDocumentMarker then .error .malformed
    else
      let c := c.skipWhile fun ch => ch == ' ' || ch == '\t'
      match c.takeBreak with
      | (none, _) => .ok ([], c)
      | (some ch, c) => do
        let (more, c) ← quotedBreaks fuel c
        .ok (ch :: more, c)

/-- Skips the space in a quoted scalar: what it stands for. -/
def quotedSpace (c : Cursor) : Except Fault (List Char × Cursor) :=
  let (spaces, c) := c.takeWhile fun ch => ch == ' ' || ch == '\t'
  match c.takeBreak with
  | (none, _) => if c.rest.isEmpty then .error .malformed else .ok (spaces, c)
  | (some first, c) => do
    let (more, c) ← quotedBreaks (c.rest.length + 1) c
    .ok (foldBreaks first more, c)

/-- Reads an escape in a double-quoted scalar behind its backslash. -/
def readEscape (c : Cursor) : Except Fault (ScalarText × Cursor) :=
  match c.rest with
  | [] => .error .malformed
  | ch :: rest =>
    match escape? ch, escapeDigits? ch with
    | some d, _ => .ok (⟨[d], true⟩, c.advance)
    | none, some n =>
      let digits := rest.take n
      if digits.length == n && digits.all isHex then do
        let t ← charOf (hexValue digits)
        .ok (t, c.advanceBy (n + 1))
      else .error .malformed
    | none, none =>
      match c.takeBreak with
      | (none, _) => .error .malformed
      | (some _, c) => do
        let (more, c) ← quotedBreaks (c.rest.length + 1) c
        .ok (⟨more, true⟩, c)

/-- Reads a quoted scalar up to its closing mark. -/
def readQuotedFrom (mark : Char) : (fuel : Nat) → Cursor → Except Fault (ScalarText × Cursor)
  | 0, _ => .error .malformed
  | fuel + 1, c =>
    match c.rest with
    | [] => .error .malformed
    | ch :: rest =>
      if ch == mark then
        if mark == '\'' && rest.head? == some '\'' then do
          let (t, c) ← readQuotedFrom mark fuel (c.advanceBy 2)
          .ok (t.prepend ['\''], c)
        else .ok (⟨[], true⟩, c.advance)
      else if mark == '"' && ch == '\\' then do
        let (escaped, c) ← readEscape c.advance
        let (t, c) ← readQuotedFrom mark fuel c
        .ok (⟨escaped.chars ++ t.chars, escaped.wellFormed && t.wellFormed⟩, c)
      else if isSeparator ch then do
        let (space, c) ← quotedSpace c
        let (t, c) ← readQuotedFrom mark fuel c
        .ok (t.prepend space, c)
      else do
        let (t, c) ← readQuotedFrom mark fuel c.advance
        .ok (t.prepend [ch], c)

/-- Reads a quoted scalar. -/
def readQuotedScalar (mark : Char) (c : Cursor) : Except Fault (ScalarText × Cursor) :=
  readQuotedFrom mark (c.rest.length + 1) c.advance

/-- What becomes of the ends of lines at the end of a block scalar. -/
inductive Chomp
  | clip
  | strip
  | keep
  deriving DecidableEq, Repr

/-- Reads how a block scalar is chomped. -/
def readChomp (c : Cursor) : Chomp × Cursor :=
  match c.peek? with
  | some '+' => (.keep, c.advance)
  | some '-' => (.strip, c.advance)
  | _ => (.clip, c)

/-- Reads by how much a block scalar is indented. -/
def readIncrement (c : Cursor) : Except Fault (Option Nat × Cursor) :=
  match c.peek? with
  | some ch =>
    if ch == '0' then .error .malformed
    else if ch.isDigit then .ok (some (ch.toNat - 48), c.advance)
    else .ok (none, c)
  | none => .ok (none, c)

/-- Reads the indicators of a block scalar in either order. -/
def readIndicators (c : Cursor) : Except Fault (Chomp × Option Nat × Cursor) := do
  let (chomp, c) := readChomp c
  let (increment, c) ← readIncrement c
  let (chomp, c) := if chomp = .clip then readChomp c else (chomp, c)
  if endsOr isSpaceOrBreak c.rest then .ok (chomp, increment, c) else .error .malformed

/-- Skips the empty lines before a block scalar whose indentation is not
given: their ends, and the widest column reached. -/
def blockIndentation : (fuel widest : Nat) → Cursor → List Char × Nat × Cursor
  | 0, widest, c => ([], widest, c)
  | fuel + 1, widest, c =>
    match c.takeBreak with
    | (some ch, c) =>
      let (more, widest, c) := blockIndentation fuel widest c
      (ch :: more, widest, c)
    | (none, c) =>
      if c.peek? == some ' ' then
        let c := c.advance
        blockIndentation fuel (max widest c.column) c
      else ([], widest, c)

/-- Skips spaces up to a column. -/
def skipIndent (indent : Nat) : (fuel : Nat) → Cursor → Cursor
  | 0, c => c
  | fuel + 1, c =>
    if c.column < indent && c.peek? == some ' ' then skipIndent indent fuel c.advance
    else c

/-- Skips the empty lines in a block scalar: their ends. -/
def blockBreaks (indent : Nat) : (fuel : Nat) → Cursor → List Char × Cursor
  | 0, c => ([], c)
  | fuel + 1, c =>
    let c := skipIndent indent c.rest.length c
    match c.takeBreak with
    | (none, _) => ([], c)
    | (some ch, c) =>
      let (more, c) := blockBreaks indent fuel c
      (ch :: more, c)

/-- Reads the lines of a block scalar, the first of which is behind the empty
lines that ended in `breaks`. The last line's end, and the ends of the empty
lines behind it, are given apart. -/
def blockLines (folded : Bool) (indent : Nat) (breaks : List Char) :
    (fuel : Nat) → Cursor → List Char × Option Char × List Char × Cursor
  | 0, c => ([], none, breaks, c)
  | fuel + 1, c =>
    if c.column != indent || c.rest.isEmpty then ([], none, breaks, c)
    else
      let isIndented := fun (c : Cursor) => c.peek? == some ' ' || c.peek? == some '\t'
      let startsInLine := !isIndented c
      let (line, c) := c.takeWhile (!isBreak ·)
      let (lineEnd, c) := c.takeBreak
      let (after, c) := blockBreaks indent (c.rest.length + 1) c
      if c.column == indent && !c.rest.isEmpty then
        let joint :=
          if folded && lineEnd == some '\n' && startsInLine && !isIndented c then
            (if after.isEmpty then [' '] else [])
          else lineEnd.toList
        let (more, lineEnd, after, c) := blockLines folded indent after fuel c
        (breaks ++ line ++ joint ++ more, lineEnd, after, c)
      else (breaks ++ line, lineEnd, after, c)

/-- Reads a block scalar in a collection that is indented by `parent`. -/
def readBlockScalar (folded : Bool) (parent : Int) (c : Cursor) :
    Except Fault (ScalarText × Cursor) := do
  let (chomp, increment, c) ← readIndicators c.advance
  let c ← c.skipCommentLine
  let least := (max 1 (parent + 1)).toNat
  let (indent, breaks, c) := match increment with
    | some n =>
      let indent := least + n - 1
      let (breaks, c) := blockBreaks indent (c.rest.length + 1) c
      (indent, breaks, c)
    | none =>
      let (breaks, widest, c) := blockIndentation (c.rest.length + 1) 0 c
      (max least widest, breaks, c)
  let (text, lineEnd, after, c) := blockLines folded indent breaks (c.rest.length + 1) c
  let chars := match chomp with
    | .strip => text
    | .clip => text ++ lineEnd.toList
    | .keep => text ++ lineEnd.toList ++ after
  .ok (⟨chars, true⟩, c)

end FeatureGrant.Yaml
