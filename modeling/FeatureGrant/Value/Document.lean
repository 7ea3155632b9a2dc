import FeatureGrant.Value

/-!
# Documents

Writes a value as an indented JSON document in ASCII.
-/

namespace FeatureGrant.Value

open FeatureGrant.Text

/-- The escape of a unit of sixteen bits. -/
def unitEscape (n : Nat) : List Char := ['\\', 'u'] ++ hexDigits 4 n

/-- How a character is written in a text. Those above the first plane are
written as two units. -/
def documentChar (c : Char) : List Char :=
  match c with
  | '"' => ['\\', '"']
  | '\\' => ['\\', '\\']
  | '\n' => ['\\', 'n']
  | '\r' => ['\\', 'r']
  | '\t' => ['\\', 't']
  | '\x08' => ['\\', 'b']
  | '\x0c' => ['\\', 'f']
  | c =>
    let n := c.toNat
    if 0x20 ≤ n && n < 0x7F then [c]
    else if n < 0x10000 then unitEscape n
    else
      unitEscape (0xD800 + (n - 0x10000) / 0x400)
        ++ unitEscape (0xDC00 + (n - 0x10000) % 0x400)

/-- A text in a document. -/
def documentText (s : String) : String :=
  String.ofList ('"' :: s.toList.flatMap documentChar ++ ['"'])

/-- The start of a line at a depth. -/
def lineStart (depth : Nat) : String :=
  String.ofList ('\n' :: List.replicate (2 * depth) ' ')

/-- Lines between two brackets, or nothing. -/
def bracketed (first last : String) (depth : Nat) (lines : List String) : String :=
  if lines.isEmpty then first ++ last
  else
    first ++ lineStart (depth + 1) ++ ("," ++ lineStart (depth + 1)).intercalate lines
      ++ lineStart depth ++ last

mutual

/-- A value as a document that starts at a depth. Values that have no form of
their own are written as they are shown. -/
def documentAt (depth : Nat) : Value → String
  | null => "null"
  | boolean b => if b then "true" else "false"
  | integer n => toString n
  | text s => documentText s
  | list items => bracketed "[" "]" depth (documentItems (depth + 1) items)
  | map entries =>
    bracketed "\x7b" "\x7d" depth (documentEntries (depth + 1) entries)
  | v => documentText v.shown

/-- The items of a list as documents. -/
def documentItems (depth : Nat) : List Value → List String
  | [] => []
  | v :: rest => v.documentAt depth :: documentItems depth rest

/-- The entries of a map as documents. -/
def documentEntries (depth : Nat) : List (Value × Value) → List String
  | [] => []
  | (key, value) :: rest =>
    (documentText key.plain ++ ": " ++ value.documentAt depth)
      :: documentEntries depth rest

end

/-- A value as a document. -/
def document (v : Value) : String := v.documentAt 0

/-- A map whose keys are names. -/
def record (fields : List (String × Value)) : Value :=
  .map (fields.map fun (name, value) => (.text name, value))

end FeatureGrant.Value
