import CqlClient.Yaml.Node

/-!
# YAML documents

A node with an anchor can be referred to from any later place, even from within itself. A document
is a tree of nodes that knows what its references hold.
-/

namespace CqlClient.Yaml

namespace Node

mutual

def anchors : Node → List (Nat × Node)
  | .scalar .. => []
  | .sequence items => anchorsOfItems items
  | .mapping entries => anchorsOfEntries entries
  | .anchored number node => (number, node) :: node.anchors
  | .reference _ => []

def anchorsOfItems : List Node → List (Nat × Node)
  | [] => []
  | node :: rest => node.anchors ++ anchorsOfItems rest

def anchorsOfEntries : List (Node × Node) → List (Nat × Node)
  | [] => []
  | (k, v) :: rest => k.anchors ++ v.anchors ++ anchorsOfEntries rest

end

end Node

/-- A document: its root, and the nodes that have an anchor, the last one first. -/
structure Document where
  root : Node
  anchored : List (Nat × Node)

namespace Document

def ofRoot (root : Node) : Document := { root, anchored := root.anchors.reverse }

/-- What a node holds. A reference holds what the last node with its anchor does. -/
def content (d : Document) : Node → Node
  | .anchored _ node => node
  | .reference number => (d.anchored.lookup number).getD (.reference number)
  | node => node

/-- The only document of the tokens; one without any content is a node that is left out. -/
def ofTokens? (ts : List Token) : Option Document := do
  let fuel := 4 * ts.length + 4
  let body := ts.dropWhile (· = .directive)
  let (root, rest) ←
    if body.head? = some .documentStart then
      if body.tail = [] then some (Node.absent, [])
      else Node.readOr? fuel [.documentStart, .documentEnd, .directive] .item body.tail
    else if body.length < ts.length then none
    else if ts = [] then some (Node.absent, [])
    else Node.read? fuel .item ts
  if rest.all (· = .documentEnd) then some (ofRoot root) else none

def parse? (text : String) : Option Document := do ofTokens? (← tokens? text)

end Document

end CqlClient.Yaml
