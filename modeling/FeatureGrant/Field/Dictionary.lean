import FeatureGrant.Field.Scalar

/-!
# Reading dictionaries

A dictionary is a comma-separated list of members, each a key with an item, an
inner list or nothing, which stands for the truth value true.  Parameters
behind an item are checked and dropped.
-/

namespace FeatureGrant.Field

/-- Skips spaces. -/
def skipSpaces (s : List Char) : List Char := s.dropWhile (· == ' ')

/-- Skips spaces and tabs. -/
def skipBlanks (s : List Char) : List Char :=
  s.dropWhile fun c => c == ' ' || c == '\t'

/-- Reads the value of a parameter, if one follows. -/
def skipParameterValue : List Char → Option (List Char)
  | '=' :: rest => (readBareItem rest).map Prod.snd
  | s => some s

theorem length_of_skipParameterValue {s rest : List Char}
    (hskip : skipParameterValue s = some rest) : rest.length ≤ s.length := by
  fun_cases skipParameterValue s <;>
    grind [skipParameterValue, Option.map_eq_some_iff, → length_of_readBareItem]

/-- Skips the parameters at the front of a text, each behind a semicolon. -/
def skipParameters (s : List Char) : Option (List Char) :=
  match s with
  | ';' :: behind =>
    match _ : readKey (skipSpaces behind) with
    | none => none
    | some (_, afterKey) =>
      match _ : skipParameterValue afterKey with
      | none => none
      | some rest => skipParameters rest
  | _ => some s
termination_by s.length
decreasing_by
  have hspaces := length_dropWhile_le (· == ' ') behind
  have hshorter := length_of_readKey ‹readKey _ = _›
  have hrest := length_of_skipParameterValue ‹skipParameterValue _ = _›
  rw [skipSpaces] at hshorter
  simp only [List.length_cons]
  omega

theorem length_of_skipParameters {s rest : List Char}
    (hskip : skipParameters s = some rest) : rest.length ≤ s.length := by
  fun_induction skipParameters s with
  | case1 => simp at hskip
  | case2 => simp at hskip
  | case3 behind key afterKey hkey rest' hvalue ih =>
    have hspaces := length_dropWhile_le (· == ' ') behind
    have hshorter := length_of_readKey hkey
    have hrest := length_of_skipParameterValue hvalue
    have htail := ih hskip
    rw [skipSpaces] at hshorter
    simp only [List.length_cons]
    omega
  | case4 => grind

/-- Reads a single value with its parameters. -/
def readItem (s : List Char) : Taken BareItem :=
  match readBareItem s with
  | none => none
  | some (item, rest) => (skipParameters rest).map fun rest => (item, rest)

theorem length_of_readItem {s rest : List Char} {item : BareItem}
    (hread : readItem s = some (item, rest)) : rest.length < s.length := by
  grind [readItem, Option.map_eq_some_iff, → length_of_readBareItem,
    → length_of_skipParameters]

/-- Reads the items of an inner list behind its opening parenthesis, up to the
closing one. A space or the closing parenthesis follows every item. -/
def readItems (s : List Char) : Taken (List BareItem) :=
  match _ : skipSpaces s with
  | [] => none
  | c :: tail =>
    if c == ')' then some ([], tail)
    else
      match _ : readItem (c :: tail) with
      | none => none
      | some (item, rest) =>
        if rest.head? == some ' ' || rest.head? == some ')' then
          (readItems rest).map fun (items, rest) => (item :: items, rest)
        else none
termination_by s.length
decreasing_by
  have hshorter := length_of_readItem ‹readItem _ = _›
  have hdrop := length_dropWhile_le (· == ' ') s
  have hspaces := ‹skipSpaces s = _›
  rw [skipSpaces] at hspaces
  rw [hspaces] at hdrop
  omega

theorem length_of_readItems {s rest : List Char} {items : List BareItem}
    (hread : readItems s = some (items, rest)) : rest.length < s.length := by
  fun_induction readItems s generalizing items with
  | case1 => simp at hread
  | case2 s c tail hspaces hclose =>
    have hdrop := length_dropWhile_le (· == ' ') s
    rw [skipSpaces] at hspaces
    rw [hspaces, List.length_cons] at hdrop
    grind
  | case3 => simp at hread
  | case4 s c tail hspaces hclose item behind hitem hend ih =>
    have hshorter := length_of_readItem hitem
    have hdrop := length_dropWhile_le (· == ' ') s
    rw [skipSpaces] at hspaces
    rw [hspaces] at hdrop
    grind [Option.map_eq_some_iff]
  | case5 => simp at hread

/-- Reads what a key stands for. Without a value it is the truth value
true. -/
def readMember : List Char → Taken Member
  | '=' :: '(' :: rest =>
    match readItems rest with
    | none => none
    | some (items, rest) =>
      (skipParameters rest).map fun rest => (.innerList items, rest)
  | '=' :: rest => (readItem rest).map fun (item, rest) => (.item item, rest)
  | s => (skipParameters s).map fun rest => (.item (.boolean true), rest)

theorem length_of_readMember {s rest : List Char} {member : Member}
    (hread : readMember s = some (member, rest)) : rest.length ≤ s.length := by
  fun_cases readMember s <;>
    grind [readMember, Option.map_eq_some_iff, → length_of_readItems,
      → length_of_readItem, → length_of_skipParameters]

/-- Reads the members of a dictionary to the end of the text, with repeated
keys. A comma stands between two members, with blanks around it. -/
def readMembers (s : List Char) : Option (List (String × Member)) :=
  match _ : readKey s with
  | none => none
  | some (key, afterKey) =>
    match _ : readMember afterKey with
    | none => none
    | some (member, afterMember) =>
      match _ : skipBlanks afterMember with
      | [] => some [(key, member)]
      | ',' :: behind =>
        (readMembers (skipBlanks behind)).map ((key, member) :: ·)
      | _ => none
termination_by s.length
decreasing_by
  have hshorter := length_of_readKey ‹readKey _ = _›
  have hmember := length_of_readMember ‹readMember _ = _›
  have hblanks := ‹skipBlanks afterMember = _›
  have hdrop := length_dropWhile_le (fun c => c == ' ' || c == '\t') afterMember
  have hagain := length_dropWhile_le (fun c => c == ' ' || c == '\t') behind
  rw [skipBlanks] at hblanks
  rw [hblanks, List.length_cons] at hdrop
  rw [skipBlanks]
  omega

/-- Reads a dictionary. -/
def readDictionary (s : List Char) : Option (List (String × Member)) :=
  readMembers (skipSpaces s)

end FeatureGrant.Field
