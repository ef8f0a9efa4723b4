import CqlClient.Yaml.Token

/-!
# YAML nodes

The tree of nodes that the tokens of a text describe. A node that is left out is an empty plain
scalar. Its properties, an anchor and a tag, stand before a node.
-/

namespace CqlClient.Yaml

/-- A scalar with its tag, if it has one; a sequence; a mapping in the order of its text; a node
with an anchor; or a reference to the node with an anchor. -/
inductive Node where
  | scalar (tag : Option String) (style : ScalarStyle) (text : String)
  | sequence (items : List Node)
  | mapping (entries : List (Node × Node))
  | anchored (number : Nat) (node : Node)
  | reference (number : Nat)

structure Properties where
  anchor : Option Nat := none
  tag : Option String := none
  deriving DecidableEq

def Properties.read : List Token → Properties × List Token
  | .anchor number :: .tag name :: rest => ({ anchor := number, tag := name }, rest)
  | .tag name :: .anchor number :: rest => ({ anchor := number, tag := name }, rest)
  | .anchor number :: rest => ({ anchor := number }, rest)
  | .tag name :: rest => ({ tag := name }, rest)
  | ts => ({}, ts)

def Properties.attach (properties : Properties) (node : Node) : Node :=
  match properties.anchor with
  | some number => .anchored number node
  | none => node

namespace Node

def absent : Node := .scalar none .plain ""

/-- Where a node stands: as an item of a block sequence or as a document; as a key or value of a
block mapping, where a sequence need not be indented; or in a flow collection. -/
inductive Position where
  | item
  | entry
  | flow
  deriving DecidableEq

mutual

def read? : Nat → Position → List Token → Option (Node × List Token)
  | 0, _, _ => none
  | _ + 1, _, .reference number :: rest => some (.reference number, rest)
  | fuel + 1, position, ts =>
    let (properties, rest) := Properties.read ts
    (readContent? fuel position properties rest).map fun (node, rest) =>
      (properties.attach node, rest)

/-- Reads what follows the properties of a node, and is left out only behind such ones. The tag `!`
says nothing of a scalar that is there. -/
def readContent? : Nat → Position → Properties → List Token → Option (Node × List Token)
  | 0, _, _, _ => none
  | _ + 1, _, properties, .scalar style text :: rest =>
    some (.scalar (properties.tag.filter (· ≠ "!")) style text, rest)
  | fuel + 1, _, _, .openBracket :: rest => do
    let (items, rest) ← readFlowItems? fuel true rest
    some (.sequence items, rest)
  | fuel + 1, _, _, .openBrace :: rest => do
    let (entries, rest) ← readFlowEntries? fuel true rest
    some (.mapping entries, rest)
  | fuel + 1, position, properties, ts =>
    match position, ts with
    | .entry, .dash :: _ => do
      let (items, rest) ← readFlatItems? fuel ts
      some (.sequence items, rest)
    | .item, .openSequence :: rest | .entry, .openSequence :: rest => do
      let (items, rest) ← readItems? fuel rest
      some (.sequence items, rest)
    | .item, .openMapping :: rest | .entry, .openMapping :: rest => do
      let (entries, rest) ← readEntries? fuel rest
      some (.mapping entries, rest)
    | _, _ =>
      if properties = {} then none else some (.scalar properties.tag .plain "", ts)

/-- Reads a node that is left out if one of the given tokens follows. -/
def readOr? : Nat → List Token → Position → List Token → Option (Node × List Token)
  | 0, _, _, _ => none
  | fuel + 1, stops, position, ts =>
    if ts.head?.any stops.contains then some (absent, ts) else read? fuel position ts

def readItems? : Nat → List Token → Option (List Node × List Token)
  | fuel + 1, .dash :: rest => do
    let (v, rest) ← readOr? fuel [.dash, .closeBlock] .item rest
    let (items, rest) ← readItems? fuel rest
    some (v :: items, rest)
  | _, .closeBlock :: rest => some ([], rest)
  | _, _ => none

/-- Reads the items of a block sequence at the column of its key, which ends where no dash
follows. -/
def readFlatItems? : Nat → List Token → Option (List Node × List Token)
  | fuel + 1, .dash :: rest => do
    let (v, rest) ← readOr? fuel [.dash, .key, .value, .closeBlock] .item rest
    let (items, rest) ← readFlatItems? fuel rest
    some (v :: items, rest)
  | 0, _ => none
  | _, rest => some ([], rest)

def readEntries? : Nat → List Token → Option (List (Node × Node) × List Token)
  | fuel + 1, .key :: rest => do
    let (k, rest) ← readOr? fuel [.key, .value, .closeBlock] .entry rest
    let (v, rest) ← readValue? fuel [.key, .value, .closeBlock] .entry rest
    let (entries, rest) ← readEntries? fuel rest
    some ((k, v) :: entries, rest)
  | _, .closeBlock :: rest => some ([], rest)
  | _, _ => none

def readValue? : Nat → List Token → Position → List Token → Option (Node × List Token)
  | fuel + 1, stops, position, .value :: rest => readOr? fuel stops position rest
  | _, _, _, rest => some (absent, rest)

/-- Reads the items of a flow sequence up to its closing bracket. A key between brackets makes a
mapping of one entry. -/
def readFlowItems? : Nat → Bool → List Token → Option (List Node × List Token)
  | 0, _, _ => none
  | _, _, .closeBracket :: rest => some ([], rest)
  | fuel + 1, false, .comma :: rest => readFlowItems? fuel true rest
  | _, false, _ => none
  | fuel + 1, true, .key :: rest => do
    let (k, rest) ← match rest with
      | t :: after =>
        if t = .value ∨ t = .comma ∨ t = .closeBracket then some (absent, after)
        else read? fuel .flow (t :: after)
      | [] => none
    let (v, rest) ← readValue? fuel [.comma, .closeBracket] .flow rest
    let (items, rest) ← readFlowItems? fuel false rest
    some (.mapping [(k, v)] :: items, rest)
  | fuel + 1, true, ts => do
    let (v, rest) ← read? fuel .flow ts
    let (items, rest) ← readFlowItems? fuel false rest
    some (v :: items, rest)

def readFlowEntries? : Nat → Bool → List Token → Option (List (Node × Node) × List Token)
  | 0, _, _ => none
  | _, _, .closeBrace :: rest => some ([], rest)
  | fuel + 1, false, .comma :: rest => readFlowEntries? fuel true rest
  | _, false, _ => none
  | fuel + 1, true, .key :: rest => do
    let (k, rest) ← readOr? fuel [.value, .comma, .closeBrace] .flow rest
    let (v, rest) ← readValue? fuel [.comma, .closeBrace] .flow rest
    let (entries, rest) ← readFlowEntries? fuel false rest
    some ((k, v) :: entries, rest)
  | fuel + 1, true, ts => do
    let (k, rest) ← read? fuel .flow ts
    let (entries, rest) ← readFlowEntries? fuel false rest
    some ((k, absent) :: entries, rest)

end

end Node

end CqlClient.Yaml
