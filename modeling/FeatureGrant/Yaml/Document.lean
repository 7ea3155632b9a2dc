import FeatureGrant.Yaml.Node.OfTokens
import FeatureGrant.Yaml.Scalar

/-!
# YAML documents

The value that a text stands for.  An equal key later in a mapping replaces
the value of the earlier one; the entries of merged mappings come first.
-/

namespace FeatureGrant.Yaml

/-- The named nodes of a document, the values that are known of them, and how
often an alias may still be followed into a node that holds it. -/
structure Names where
  nodes : List (String × Node)
  values : List (String × Value)
  unrolls : Nat

/-- A node without its name; an alias is followed. -/
def Names.bare (names : Names) : (fuel : Nat) → Node → Node
  | 0, _ => .absent
  | fuel + 1, .named _ node => names.bare fuel node
  | fuel + 1, .aliasOf name => names.bare fuel ((names.nodes.lookup name).getD .absent)
  | _, node => node

/-- What a key is, if it is a scalar. -/
def keyTag? (names : Names) (key : Node) : Option Tag :=
  match names.bare 3 key with
  | .scalar tag _ => some tag
  | _ => none

/-- The text of a scalar, or of the scalar under the key `=` of a mapping. -/
def scalarText (names : Names) : (fuel : Nat) → Node → Except Fault ScalarText
  | 0, _ => .error .malformed
  | fuel + 1, node =>
    match names.bare 3 node with
    | .scalar _ text => .ok text
    | .mapping _ entries =>
      match entries.find? fun (key, _) => keyTag? names key == some .value with
      | some (_, value) => scalarText names fuel value
      | none => .error .malformed
    | _ => .error .malformed

mutual

/-- The entries of a mapping, those of merged mappings first. -/
def merged (names : Names) : (fuel : Nat) → List (Node × Node) →
    Except Fault (List (Node × Node))
  | 0, _ => .ok []
  | fuel + 1, entries => do
    let isMerge := fun (entry : Node × Node) => keyTag? names entry.1 == some .merge
    let others := entries.filter (!isMerge ·)
    let parts ← mergedAll names fuel ((entries.filter isMerge).map Prod.snd)
    .ok (parts ++ others)

/-- The entries of all merged mappings. -/
def mergedAll (names : Names) : (fuel : Nat) → List Node →
    Except Fault (List (Node × Node))
  | 0, _ => .ok []
  | _, [] => .ok []
  | fuel + 1, node :: rest => do
    let first ← match names.bare 3 node with
      | .mapping _ entries => merged names fuel entries
      | .sequence _ items => mergedItems names fuel items
      | _ => .error .malformed
    let more ← mergedAll names fuel rest
    .ok (first ++ more)

/-- The entries of the mappings in a list, those of earlier ones last. -/
def mergedItems (names : Names) : (fuel : Nat) → List Node →
    Except Fault (List (Node × Node))
  | 0, _ => .ok []
  | _, [] => .ok []
  | fuel + 1, node :: rest => do
    let first ← match names.bare 3 node with
      | .mapping _ entries => merged names fuel entries
      | _ => .error .malformed
    let more ← mergedItems names fuel rest
    .ok (more ++ first)

end

/-- Whether a value can be a key. -/
def isKeyValue : Value → Bool
  | .list _ | .set _ | .map _ => false
  | _ => true

/-- Sets an entry: in place if an equal key is there, else at the end. -/
def setEntry (key value : Value) : List (Value × Value) → List (Value × Value)
  | [] => [(key, value)]
  | entry :: rest =>
    if entry.1.same key then (entry.1, value) :: rest else entry :: setEntry key value rest

/-- The value of a scalar of some kind. -/
def scalarValue (tag : Tag) (t : ScalarText) : Except Fault Value :=
  match tag with
  | .null => .ok .null
  | .bool => boolValue t.chars
  | .int => intValue t.chars
  | .float => floatValue t.chars
  | .binary => binaryValue t.chars
  | .timestamp => timestampValue t.chars
  | .str => .ok (textValue t)
  | _ => .error .malformed

mutual

/-- The value of a node. -/
def value (fuel : Nat) (names : Names) (node : Node) : Except Fault (Value × Names) :=
  match fuel with
  | 0 => .ok (.null, names)
  | fuel + 1 =>
    match node with
    | .named name node => do
      let (v, names) ← value fuel names node
      .ok (v, { names with values := (name, v) :: names.values })
    | .aliasOf name =>
      match names.values.lookup name, names.unrolls with
      | some v, _ => .ok (v, names)
      | none, 0 => .ok (.null, names)
      | none, unrolls + 1 => do
        let inner := { names with unrolls }
        let (v, _) ← value fuel inner ((names.nodes.lookup name).getD .absent)
        .ok (v, names)
    | .scalar .value _ | .scalar .merge _ => .error .malformed
    | .scalar tag text => (scalarValue tag text).map fun v => (v, names)
    | .sequence tag items =>
      match tag with
      | .seq => do
        let (vs, names) ← values fuel names items
        .ok (.list vs, names)
      | .omap | .pairs => do
        let (vs, names) ← pairs fuel names items
        .ok (.list vs, names)
      | _ => .error .malformed
    | .mapping tag entries =>
      match tag with
      | .map => do
        let entries ← merged names fuel entries
        let (vs, names) ← keyed fuel names [] entries
        .ok (.map vs, names)
      | .set => do
        let entries ← merged names fuel entries
        let (vs, names) ← keyed fuel names [] entries
        .ok (.set (vs.map Prod.fst), names)
      | .null | .bool | .int | .float | .binary | .timestamp | .str => do
        let text ← scalarText names fuel (.mapping tag entries)
        (scalarValue tag text).map fun v => (v, names)
      | _ => .error .malformed

/-- The values of nodes. -/
def values (fuel : Nat) (names : Names) (nodes : List Node) :
    Except Fault (List Value × Names) :=
  match fuel, nodes with
  | 0, _ | _, [] => .ok ([], names)
  | fuel + 1, node :: rest => do
    let (v, names) ← value fuel names node
    let (vs, names) ← values fuel names rest
    .ok (v :: vs, names)

/-- The pairs of mappings with one entry each. -/
def pairs (fuel : Nat) (names : Names) (nodes : List Node) :
    Except Fault (List Value × Names) :=
  match fuel, nodes with
  | 0, _ | _, [] => .ok ([], names)
  | fuel + 1, node :: rest =>
    match names.bare 3 node with
    | .mapping _ [(key, v)] => do
      let (key, names) ← value fuel names key
      let (v, names) ← value fuel names v
      let (vs, names) ← pairs fuel names rest
      .ok (.pair key v :: vs, names)
    | _ => .error .malformed

/-- The entries of a mapping behind those in `before`. The key `=` is a text
there. -/
def keyed (fuel : Nat) (names : Names) (before : List (Value × Value))
    (entries : List (Node × Node)) : Except Fault (List (Value × Value) × Names) :=
  match fuel, entries with
  | 0, _ | _, [] => .ok (before, names)
  | fuel + 1, (key, v) :: rest => do
    let (key, names) ← match names.bare 3 key with
      | .scalar .value text => .ok (textValue text, names)
      | _ => value fuel names key
    if !isKeyValue key then .error .malformed
    let (v, names) ← value fuel names v
    keyed fuel names (setEntry key v before) rest

end

/-- The value that a text stands for. An empty text stands for nothing. -/
def load (s : List Char) : Except Fault Value := do
  let ts ← tokens s
  match ← Parsing.document ts with
  | none => .ok .null
  | some (root, nodes) =>
    let names : Names := { nodes, values := [], unrolls := 3 }
    let (v, _) ← value (4 * ts.length * ts.length + 64) names root
    .ok v

end FeatureGrant.Yaml
