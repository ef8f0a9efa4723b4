import CqlClient.Error

/-!
# Columns

The columns of an existing table, as the schema catalog lists them.
-/

namespace CqlClient

inductive ColumnKind where
  | partitionKey
  | clustering
  | regular
  | static
  deriving DecidableEq

namespace ColumnKind

def text : ColumnKind → String
  | .partitionKey => "partition_key"
  | .clustering => "clustering"
  | .regular => "regular"
  | .static => "static"

def all : List ColumnKind := [.partitionKey, .clustering, .regular, .static]

def ofText? (s : String) : Option ColumnKind := all.find? fun k => k.text = s

def ofName (s : String) : Except Json.ShapeError ColumnKind :=
  match ofText? s with
  | some k => .ok k
  | none => .error (.unknownVariant s (all.map text))

def ofJson : Json → Except Json.ShapeError ColumnKind
  | .str s => ofName s
  | .obj [(s, content)] => do
    let kind ← ofName s
    match content with
    | .null => .ok kind
    | v => .error (.invalidType v.found "unit")
  | .obj _ => .error (.invalidValue .map "map with a single key")
  | v => .error (.invalidType v.found "string or map")

end ColumnKind

structure Column where
  name : String
  type : String
  /-- The column is part of the partition key. -/
  primary : Bool
  deriving DecidableEq

namespace Column

def ofKind (name type : String) (kind : Option ColumnKind) : Column :=
  { name, type, primary := kind = some .partitionKey }

def toJson (c : Column) : Json :=
  .obj [("name", .str c.name), ("primary", .bool c.primary), ("type", .str c.type)]

def textOf : Json → Except Json.ShapeError String
  | .str s => .ok s
  | v => .error (.invalidType v.found "a string")

/-- Reads a kind of a catalog row; null stands for none. -/
def kindOf : Json → Except Json.ShapeError (Option ColumnKind)
  | .null => .ok none
  | v => do .ok (some (← ColumnKind.ofJson v))

structure CatalogRow where
  name : Option String := none
  type : Option String := none
  kind : Option ColumnKind := none

/-- Reads a row's members in order; members that are not asked for are passed over. -/
def readMembers (row : CatalogRow) : Members → Except Json.ShapeError CatalogRow
  | [] => .ok row
  | (key, value) :: rest =>
    match key with
    | "name" => do readMembers { row with name := some (← textOf value) } rest
    | "type" => do readMembers { row with type := some (← textOf value) } rest
    | "kind" => do readMembers { row with kind := ← kindOf value } rest
    | _ => readMembers row rest

/-- Reads a row of the column catalog: faults in the order of its members, then what is missing. -/
def ofRow (row : Members) : Except Json.ShapeError Column := do
  let read ← readMembers {} row
  match read.name, read.type with
  | none, _ => .error (.missingField "name")
  | _, none => .error (.missingField "type")
  | some name, some type => .ok (ofKind name type read.kind)

end Column

end CqlClient
