import FeatureGrant.Url.Head

/-!
# The parts of a URL

Splits a URL into its scheme, authority, path, query and fragment, joins them
again, and resolves a relative URL against the one that it was found at.
-/

namespace FeatureGrant.Url

/-- The parts of a URL as they are written. A missing scheme is empty. -/
structure Parts where
  scheme : List Char
  authority : Option (List Char)
  path : List Char
  query : Option (List Char)
  fragment : Option (List Char)
  deriving DecidableEq, Repr

/-- The scheme as it is written, and what follows its colon. -/
def cutScheme (s : List Char) : List Char × List Char :=
  match cut ':' s with
  | (c :: scheme, some rest) =>
    if c.isAlpha && scheme.all isSchemeChar then (c :: scheme, rest) else ([], s)
  | _ => ([], s)

/-- The authority behind a doubled slash, and what follows it. -/
def cutAuthority (s : List Char) : Option (List Char) × List Char :=
  let ends := fun (c : Char) => c == '/' || c == '?' || c == '#'
  match s with
  | '/' :: '/' :: rest =>
    (some (rest.takeWhile fun c => !ends c), rest.dropWhile fun c => !ends c)
  | _ => (none, s)

namespace Parts

/-- Splits a URL. -/
def read (s : List Char) : Parts :=
  let (scheme, rest) := cutScheme s
  let (authority, rest) := cutAuthority rest
  let (rest, fragment) := cut '#' rest
  let (path, query) := cut '?' rest
  { scheme, authority, path, query, fragment }

/-- A part that may be missing, behind its mark. -/
def marked (mark : Char) : Option (List Char) → List Char
  | some s => mark :: s
  | none => []

/-- Joins the parts. -/
def text (p : Parts) : List Char :=
  (if p.scheme.isEmpty then [] else p.scheme ++ [':'])
    ++ (match p.authority with
        | some a => '/' :: '/' :: a
        | none => [])
    ++ p.path ++ marked '?' p.query ++ marked '#' p.fragment

end Parts

/-- Schemes of URLs whose paths are nested, so that a relative URL has a
meaning in them. -/
def nestedSchemes : List String :=
  ["http", "https", "ftp", "file", "ws", "wss", "sftp", "gopher", "nntp", "imap",
   "wais", "shttp", "mms", "prospero", "rtsp", "rtsps", "rtspu", "svn", "svn+ssh"]

/-- A path without the parameters of its last segment, and these. -/
def cutParameters (path : List Char) : List Char × List Char :=
  let last := behindLast '/' path
  let (segment, parameters) := cut ';' last
  (path.take (path.length - last.length) ++ segment, parameters.getD [])

/-- Drops `.` segments, and each `..` with the segment before it; `above`
holds the segments read so far, the last one first. -/
def foldDots (above : List (List Char)) : List (List Char) → List (List Char)
  | [] => above.reverse
  | segment :: rest =>
    if segment == ['.', '.'] then foldDots above.tail rest
    else if segment == ['.'] then foldDots above rest
    else foldDots (segment :: above) rest

/-- Without the empty segments other than the first and the last one. -/
def dropEmptyInner : List (List Char) → List (List Char)
  | first :: rest => first :: rest.dropLast.filter (!·.isEmpty) ++ rest.getLast?.toList
  | [] => []

/-- The path that `path` means at `base`. -/
def nestedPath (base path : List Char) : List Char :=
  let segments :=
    if path.head? == some '/' then path.splitOn '/'
    else
      let above := base.splitOn '/'
      let above := if above.getLast? == some [] then above else above.dropLast
      dropEmptyInner (above ++ path.splitOn '/')
  let last := segments.getLast?.getD []
  let resolved := foldDots [] segments
    ++ (if last == ['.'] || last == ['.', '.'] then [[]] else [])
  let joined := ['/'].intercalate resolved
  if joined.head? == some '/' then joined else '/' :: joined

/-- A part that is not empty. -/
def nonempty? : Option (List Char) → Option (List Char)
  | some (c :: s) => some (c :: s)
  | _ => none

/-- A path with the parameters of its last segment. -/
def withParameters (path parameters : List Char) : List Char :=
  path ++ Parts.marked ';' (nonempty? (some parameters))

/-- The URL that `reference` means at `base`. Empty queries, fragments and
parameters are dropped. -/
def resolve (base reference : List Char) : List Char :=
  let b := Parts.read base
  let r := Parts.read reference
  if reference.isEmpty then base
  else if !r.scheme.isEmpty && r.scheme != b.scheme
      || !nestedSchemes.contains (String.ofList b.scheme) then reference
  else
    let query := nonempty? r.query
    let fragment := nonempty? r.fragment
    let (path, parameters) := cutParameters r.path
    if (nonempty? r.authority).isSome then
      Parts.text
        { scheme := b.scheme, authority := r.authority
          path := withParameters path parameters, query, fragment }
    else
      let (basePath, baseParameters) := cutParameters b.path
      let (path, parameters, query) :=
        if path.isEmpty && parameters.isEmpty then
          (basePath, baseParameters, query <|> nonempty? b.query)
        else (nestedPath basePath path, parameters, query)
      Parts.text
        { scheme := b.scheme, authority := b.authority
          path := withParameters path parameters, query, fragment }

end FeatureGrant.Url
