import CqlClient.Name
import CqlClient.Query.Basic

/-!
# Queries as JSON

The JSON form of a query. A record is an object, or an array of its members in order; an expression
is an object with one member, named for its kind, and a parameter may be just its kind's name.
-/

namespace CqlClient

namespace Json

/-- The members of a record given as an object, or as an array of its members in order. -/
def record? (keys : List String) : Json → Option Members
  | .obj members => some members
  | .arr items => if items.length ≤ keys.length then some (keys.zip items) else none
  | _ => none

end Json

namespace Members

def required {α : Type} (members : Members) (key : String) (read : Json → Option α) : Option α :=
  (members.find? key).bind read

def optional {α : Type} (members : Members) (key : String) (read : Json → Option α) :
    Option (Option α) :=
  match members.find? key with
  | none => some none
  | some .null => some none
  | some v => (read v).map some

def defaulted {α : Type} (members : Members) (key : String) (value : α)
    (read : Json → Option α) : Option α :=
  match members.find? key with
  | none => some value
  | some v => read v

end Members

def Json.listOf? {α : Type} (read : Json → Option α) : Json → Option (List α)
  | .arr items => items.mapM read
  | _ => none

/-- A choice among names without content: its name, or an object with its name and null. -/
def Json.choice? : Json → Option String
  | .str name => some name
  | .obj [(name, .null)] => some name
  | _ => none

namespace CompareOp

def key : CompareOp → String
  | .eq => "eq"
  | .ne => "ne"
  | .gt => "gt"
  | .gte => "gte"
  | .lt => "lt"
  | .lte => "lte"

def ofKey? : String → Option CompareOp
  | "eq" => some .eq
  | "ne" => some .ne
  | "gt" => some .gt
  | "gte" => some .gte
  | "lt" => some .lt
  | "lte" => some .lte
  | _ => none

def ofJson? (v : Json) : Option CompareOp := v.choice?.bind ofKey?

end CompareOp

namespace Expr

mutual

def toJson : Expr → Json
  | .name n => .obj [("name", Name.toJson n)]
  | .literal value => .obj [("literal", value)]
  | .param => .str "param"
  | .compare op left right =>
    .obj [("compare", .obj [("left", left.toJson), ("op", .str op.key), ("right", right.toJson)])]
  | .and items => .obj [("and", .arr (listToJson items))]
  | .or items => .obj [("or", .arr (listToJson items))]
  | .oneOf subject values =>
    .obj [("in", .obj [("expr", subject.toJson), ("values", .arr (listToJson values))])]
  | .call function args =>
    .obj [("call", .obj [("args", .arr (listToJson args)), ("name", .str function)])]

def listToJson : List Expr → List Json
  | [] => []
  | e :: rest => e.toJson :: listToJson rest

end

/-- What a member of an expression's body may be read as. -/
structure Reading where
  value : Json
  expr : Option Expr
  exprs : Option (List Expr)

def findReading? (key : String) : List (String × Reading) → Option Reading
  | [] => none
  | (k, r) :: rest => if k = key then some r else findReading? key rest

/-- Puts an expression together from its kind and the members of its body. -/
def ofMembers? (kind : String) (members : List (String × Reading)) : Option Expr :=
  match kind with
  | "compare" => do
    let op ← (← findReading? "op" members).value |> CompareOp.ofJson?
    let left ← (← findReading? "left" members).expr
    let right ← (← findReading? "right" members).expr
    some (.compare op left right)
  | "in" => do
    let subject ← (← findReading? "expr" members).expr
    let values ← (← findReading? "values" members).exprs
    some (.oneOf subject values)
  | "call" => do
    let function ← (← findReading? "name" members).value.asString?
    let args ← (← findReading? "args" members).exprs
    some (.call function args)
  | _ => none

def nameOf? (body : Json) : Option Expr := do
  let members ← body.record? ["$name"]
  (members.required "$name" Json.asString?).map .name

mutual

def ofJson? : Json → Option Expr
  | .str kind => if kind = "param" then some .param else none
  | .obj [(kind, body)] => ofBody? kind body
  | _ => none

def ofBody? (kind : String) : Json → Option Expr
  | .obj members =>
    match kind with
    | "literal" => some (.literal (.obj members))
    | "name" => nameOf? (.obj members)
    | _ => ofMembers? kind (readMembers members)
  | .arr items =>
    match kind with
    | "literal" => some (.literal (.arr items))
    | "name" => nameOf? (.arr items)
    | "and" => (listOfJson? items).map .and
    | "or" => (listOfJson? items).map .or
    | _ => none
  | v =>
    match kind, v with
    | "literal", v => some (.literal v)
    | "param", .null => some .param
    | _, _ => none

def listOfJson? : List Json → Option (List Expr)
  | [] => some []
  | v :: rest =>
    match ofJson? v, listOfJson? rest with
    | some e, some es => some (e :: es)
    | _, _ => none

def readMembers : List (String × Json) → List (String × Reading)
  | [] => []
  | (key, value) :: rest => (key, ⟨value, ofJson? value, itemsOf? value⟩) :: readMembers rest

def itemsOf? : Json → Option (List Expr)
  | .arr items => listOfJson? items
  | _ => none

end

end Expr

namespace Entity

def toJson (e : Entity) : Json :=
  .obj (Json.optional "$as" (e.aliasName.map .str) ++ [("name", .str e.name)])

def ofJson? (v : Json) : Option Entity := do
  let members ← v.record? ["name", "$as"]
  let name ← members.required "name" Json.asString?
  let aliasName ← members.optional "$as" Json.asString?
  some { name, aliasName }

end Entity

namespace SelectField

def toJson (f : SelectField) : Json :=
  .obj (Json.optional "$as" (f.aliasName.map .str) ++ [("expr", f.expr.toJson)])

def ofJson? (v : Json) : Option SelectField := do
  let members ← v.record? ["expr", "$as"]
  let expr ← members.required "expr" Expr.ofJson?
  let aliasName ← members.optional "$as" Json.asString?
  some { expr, aliasName }

end SelectField

namespace OrderKey

def toJson (k : OrderKey) : Json :=
  .obj [("descending", .bool k.descending), ("expr", k.expr.toJson)]

def ofJson? (v : Json) : Option OrderKey := do
  let members ← v.record? ["expr", "descending"]
  let expr ← members.required "expr" Expr.ofJson?
  let descending ← members.defaulted "descending" false Json.asBool?
  some { expr, descending }

end OrderKey

namespace SelectQuery

def toJson (q : SelectQuery) : Json :=
  .obj ([("$ref", q.entity.toJson)] ++
    Json.optional "$where" (q.filter.map Expr.toJson) ++
    [("fields", .arr (q.fields.map SelectField.toJson))] ++
    Json.optional "limit" (q.limit.map fun n => .int n) ++
    (if q.orderBy.isEmpty then [] else [("order_by", .arr (q.orderBy.map OrderKey.toJson))]))

def ofJson? (v : Json) : Option SelectQuery := do
  let members ← v.record? ["$ref", "fields", "$where", "order_by", "limit"]
  let entity ← members.required "$ref" Entity.ofJson?
  let fields ← members.defaulted "fields" [] (Json.listOf? SelectField.ofJson?)
  let filter ← members.optional "$where" Expr.ofJson?
  let orderBy ← members.defaulted "order_by" [] (Json.listOf? OrderKey.ofJson?)
  let limit ← members.optional "limit" Json.asNat64?
  some { entity, fields, filter, orderBy, limit }

end SelectQuery

def assignmentToJson : String × Expr → Json
  | (column, value) => .arr [.str column, value.toJson]

def assignmentOfJson? : Json → Option (String × Expr)
  | .arr [.str column, value] => (Expr.ofJson? value).map (column, ·)
  | _ => none

namespace InsertQuery

def toJson (q : InsertQuery) : Json :=
  .obj [("$ref", q.entity.toJson), ("values", .arr (q.values.map assignmentToJson))]

def ofJson? (v : Json) : Option InsertQuery := do
  let members ← v.record? ["$ref", "values"]
  let entity ← members.required "$ref" Entity.ofJson?
  let values ← members.required "values" (Json.listOf? assignmentOfJson?)
  some { entity, values }

end InsertQuery

namespace UpdateQuery

def toJson (q : UpdateQuery) : Json :=
  .obj ([("$ref", q.entity.toJson)] ++
    Json.optional "$where" (q.filter.map Expr.toJson) ++
    [("set", .arr (q.assignments.map assignmentToJson))])

def ofJson? (v : Json) : Option UpdateQuery := do
  let members ← v.record? ["$ref", "set", "$where"]
  let entity ← members.required "$ref" Entity.ofJson?
  let assignments ← members.required "set" (Json.listOf? assignmentOfJson?)
  let filter ← members.optional "$where" Expr.ofJson?
  some { entity, assignments, filter }

end UpdateQuery

namespace DeleteQuery

def toJson (q : DeleteQuery) : Json :=
  .obj ([("$ref", q.entity.toJson)] ++ Json.optional "$where" (q.filter.map Expr.toJson))

def ofJson? (v : Json) : Option DeleteQuery := do
  let members ← v.record? ["$ref", "$where"]
  let entity ← members.required "$ref" Entity.ofJson?
  let filter ← members.optional "$where" Expr.ofJson?
  some { entity, filter }

end DeleteQuery

namespace Query

def toJson : Query → Json
  | .select q => .obj [("select", q.toJson)]
  | .insert q => .obj [("insert", q.toJson)]
  | .update q => .obj [("update", q.toJson)]
  | .delete q => .obj [("delete", q.toJson)]

def ofJson? : Json → Option Query
  | .obj [(kind, body)] =>
    match kind with
    | "select" => (SelectQuery.ofJson? body).map .select
    | "insert" => (InsertQuery.ofJson? body).map .insert
    | "update" => (UpdateQuery.ofJson? body).map .update
    | "delete" => (DeleteQuery.ofJson? body).map .delete
    | _ => none
  | _ => none

end Query

def Statement.ofJson? : Json → Option Statement
  | .str cql => some (.text cql)
  | v => (Query.ofJson? v).map .query

end CqlClient
