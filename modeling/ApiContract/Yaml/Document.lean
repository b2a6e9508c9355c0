/-
**The tree of a document.**

References are replaced by what they refer to.  A reference may lead around in a circle, so both the
depth of the tree and the number of references that are followed are limited; what lies beyond the
limits cannot be read.

Main definitions:

* `Yaml.Leaf` — the leaves of the tree;
* `Yaml.tree?` — the tree of a text.
-/

import ApiContract.Tree
import ApiContract.Yaml.Node

set_option autoImplicit false

namespace ApiContract.Yaml

/-- A leaf of a document. -/
inductive Leaf where
  /-- A scalar. -/
  | scalar (s : Scalar)
  /-- A node beyond the limits, which cannot be read. -/
  | unreadable
  deriving Inhabited

namespace Node

mutual

/-- The number of nodes, where lists and maps count twice: for their begin and their end. -/
def weight : Node → Nat
  | .reference _ => 1
  | .scalar _ _ => 1
  | .list _ items => 2 + itemWeight items
  | .map _ entries => 2 + entryWeight entries

/-- The weight of items. -/
def itemWeight : List Node → Nat
  | [] => 0
  | n :: ns => weight n + itemWeight ns

/-- The weight of entries. -/
def entryWeight : List (Node × Node) → Nat
  | [] => 0
  | (k, v) :: es => weight k + weight v + entryWeight es

end

/-- A node with its anchor, if it has one. -/
def named (n : Node) : List (Nat × Node) :=
  match n with
  | .reference _ => []
  | .scalar a _ | .list a _ | .map a _ => a.toList.map fun a => (a, n)

mutual

/-- The nodes with an anchor, in the order of the text. -/
def anchored : Node → List (Nat × Node)
  | .reference a => named (.reference a)
  | .scalar a s => named (.scalar a s)
  | .list a items => named (.list a items) ++ anchoredItems items
  | .map a entries => named (.map a entries) ++ anchoredEntries entries

/-- The nodes with an anchor in items. -/
def anchoredItems : List Node → List (Nat × Node)
  | [] => []
  | n :: ns => anchored n ++ anchoredItems ns

/-- The nodes with an anchor in entries. -/
def anchoredEntries : List (Node × Node) → List (Nat × Node)
  | [] => []
  | (k, v) :: es => anchored k ++ anchored v ++ anchoredEntries es

end

/-- The node that an anchor names: of several, the last one. -/
def target? (anchors : List (Nat × Node)) (a : Nat) : Option Node :=
  (anchors.reverse.find? fun p => p.1 = a).map Prod.snd

/-- The greatest number of lists and maps inside each other. -/
def maxDepth : Nat := 128

/-- A node that is no reference: the node itself, or what it refers to as long as references are
left to be followed. -/
def followed (anchors : List (Nat × Node)) (n : Node) : StateM Nat (Option Node) := do
  match n with
  | .reference a =>
    let left ← get
    set (left - 1)
    return if left = 0 then none else target? anchors a
  | _ => return some n

/-- The leaf that a tree is. -/
def leafOf? : Tree Leaf → Option Leaf
  | .leaf l => some l
  | _ => none

/-- The tree of a node, at most `depth` deep.  The state is the number of references that may still
be followed. -/
def expand (anchors : List (Nat × Node)) (depth : Nat) (n : Node) : StateM Nat (Tree Leaf) := do
  match ← followed anchors n with
  | none => return .leaf .unreadable
  | some (.reference _) => return .leaf .unreadable
  | some (.scalar _ s) => return .leaf (.scalar s)
  | some (.list _ items) =>
    match depth with
    | 0 => return .leaf .unreadable
    | d + 1 => return .list (← items.mapM (expand anchors d))
  | some (.map _ entries) =>
    match depth with
    | 0 => return .leaf .unreadable
    | d + 1 =>
      return .map (← entries.mapM fun e => do
        let key ← expand anchors d e.1
        return (leafOf? key, ← expand anchors d e.2))

/-- The tree of the node of a document.  For each node, a hundred references may be followed. -/
def tree (n : Node) : Tree Leaf := (expand n.anchored maxDepth n (100 * n.weight)).1

end Node

/-- The tree of a text with at most one document; `some none` for a text without a document. -/
def tree? (cs : List Char) : Option (Option (Tree Leaf)) :=
  (document? cs).map fun n => n.map Node.tree

end ApiContract.Yaml
