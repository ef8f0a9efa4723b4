import CqlClient.Error
import CqlClient.Query.Json
import CqlClient.Schema.ColumnType

/-!
# Fields

The columns of a table definition.
-/

namespace CqlClient

structure Field where
  name : String
  type : String
  /-- The column is part of the partition key. -/
  primary : Bool := false
  size : Option Int := none
  scale : Option Int := none
  many : Bool := false
  deriving DecidableEq

namespace Field

def key (name type : String) : Field := { name, type, primary := true }

def columnType (f : Field) : Except CqlError String :=
  match TypeTemplate.find? f.type with
  | none => .error (.configuration (.unsupportedType f.type))
  | some t =>
    let text := t.render f.size f.scale
    .ok (if f.many then "LIST<" ++ text ++ ">" else text)

def toJson (f : Field) : Json :=
  .obj ([("many", .bool f.many), ("name", .str f.name), ("primary", .bool f.primary)] ++
    Json.optional "scale" (f.scale.map .int) ++ Json.optional "size" (f.size.map .int) ++
    [("type", .str f.type)])

def ofJson? (v : Json) : Option Field := do
  let members ← v.record? ["name", "type", "primary", "size", "scale", "many"]
  let name ← members.required "name" Json.asString?
  let type ← members.required "type" Json.asString?
  let primary ← members.defaulted "primary" false Json.asBool?
  let size ← members.optional "size" Json.asInt64?
  let scale ← members.optional "scale" Json.asInt64?
  let many ← members.defaulted "many" false Json.asBool?
  some { name, type, primary, size, scale, many }

end Field

end CqlClient
