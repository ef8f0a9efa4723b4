import CqlClient.Json.Basic

/-!
# Queries

The query tree that a formatter compiles: expressions, and the four statements built of them.
-/

namespace CqlClient

inductive CompareOp where
  | eq
  | ne
  | gt
  | gte
  | lt
  | lte
  deriving DecidableEq, Repr

def CompareOp.sign : CompareOp → String
  | .eq => "="
  | .ne => "<>"
  | .gt => ">"
  | .gte => ">="
  | .lt => "<"
  | .lte => "<="

inductive Expr where
  | name (name : String)
  | literal (value : Json)
  | param
  | compare (op : CompareOp) (left right : Expr)
  | and (items : List Expr)
  | or (items : List Expr)
  | oneOf (subject : Expr) (values : List Expr)
  | call (function : String) (args : List Expr)

structure Entity where
  name : String
  aliasName : Option String := none
  deriving DecidableEq

def Entity.unaliased (e : Entity) : Entity := { name := e.name }

structure SelectField where
  expr : Expr
  aliasName : Option String := none

structure OrderKey where
  expr : Expr
  descending : Bool := false

structure SelectQuery where
  entity : Entity
  fields : List SelectField := []
  filter : Option Expr := none
  orderBy : List OrderKey := []
  limit : Option Nat := none

structure InsertQuery where
  entity : Entity
  values : List (String × Expr) := []

structure UpdateQuery where
  entity : Entity
  assignments : List (String × Expr) := []
  filter : Option Expr := none

structure DeleteQuery where
  entity : Entity
  filter : Option Expr := none

inductive Query where
  | select (q : SelectQuery)
  | insert (q : InsertQuery)
  | update (q : UpdateQuery)
  | delete (q : DeleteQuery)

def Query.entity : Query → Entity
  | .select q => q.entity
  | .insert q => q.entity
  | .update q => q.entity
  | .delete q => q.entity

/-- What a connector executes: text that is sent as it is, or a query to compile. -/
inductive Statement where
  | text (cql : String)
  | query (q : Query)

def Statement.asText? : Statement → Option String
  | .text cql => some cql
  | .query _ => none

end CqlClient
