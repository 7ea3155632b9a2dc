import FeatureGrant.Yaml.Tag

/-!
# YAML nodes

The tree that a text describes, each node with what it is.  A node may be
named, and an alias stands for a node that was named before.
-/

namespace FeatureGrant.Yaml

/-- A node. -/
inductive Node
  | scalar (tag : Tag) (text : ScalarText)
  | sequence (tag : Tag) (items : List Node)
  | mapping (tag : Tag) (entries : List (Node × Node))
  | named (name : String) (node : Node)
  | aliasOf (name : String)
  deriving Inhabited

namespace Node

/-- The node of a value that is left out. -/
def absent : Node := .scalar .null ⟨[], true⟩

mutual

/-- How deep a tree is. -/
def depth : Node → Nat
  | scalar _ _ | aliasOf _ => 1
  | sequence _ items => depthAll items + 1
  | mapping _ entries => depthEntries entries + 1
  | named _ node => node.depth + 1

/-- How deep the deepest of several trees is. -/
def depthAll : List Node → Nat
  | [] => 0
  | node :: rest => max node.depth (depthAll rest)

/-- How deep the deepest of several pairs of trees is. -/
def depthEntries : List (Node × Node) → Nat
  | [] => 0
  | (key, value) :: rest => max (max key.depth value.depth) (depthEntries rest)

end

end Node

end FeatureGrant.Yaml
