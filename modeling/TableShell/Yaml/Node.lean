import TableShell.Yaml.Token

/-!
# YAML nodes

The tree of a document. Nodes may be anchored; an alias names an anchor by its number.
-/

namespace TableShell.Yaml

inductive Node where
  | alias (anchor : Nat)
  | scalar (anchor : Option Nat) (tag : Option (List Char)) (value : Scalar)
  | sequence (anchor : Option Nat) (items : List Node)
  | mapping (anchor : Option Nat) (pairs : List (Node × Node))

namespace Node

def empty : Node := .scalar none none ⟨true, []⟩

mutual

def anchored : Node → List (Nat × Node)
  | .alias _ => []
  | .scalar anchor tag value => anchor.toList.map (·, .scalar anchor tag value)
  | .sequence anchor items => anchor.toList.map (·, .sequence anchor items) ++ anchoredItems items
  | .mapping anchor pairs => anchor.toList.map (·, .mapping anchor pairs) ++ anchoredPairs pairs

def anchoredItems : List Node → List (Nat × Node)
  | [] => []
  | n :: ns => n.anchored ++ anchoredItems ns

def anchoredPairs : List (Node × Node) → List (Nat × Node)
  | [] => []
  | (k, v) :: ps => k.anchored ++ v.anchored ++ anchoredPairs ps

end

end Node

/-- A text holds at most one document; a text without any has no root. -/
structure Document where
  root : Option Node

namespace Document

/-- The node that an anchor number stands for: the last one in the text that has it. -/
def target? (d : Document) (anchor : Nat) : Option Node :=
  (d.root.toList.flatMap Node.anchored).reverse.lookup anchor

def resolve? (d : Document) : Node → Option Node
  | .alias anchor => d.target? anchor
  | n => some n

end Document

end TableShell.Yaml
