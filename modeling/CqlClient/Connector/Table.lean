import CqlClient.Connector.Keyspace
import CqlClient.Schema.Column

/-!
# Tables

A table of a keyspace: what the catalog knows of it, its creation, and the addition of columns.
Every statement of a request is rendered before the first that alters the table is sent.
-/

namespace CqlClient

structure Table where
  connector : Connector
  keyspace : Option String
  name : String

def Connector.table (connector : Connector) (name : String) : Table :=
  { connector, keyspace := connector.config.keyspace, name }

def Keyspace.table (k : Keyspace) (name : String) : Table :=
  { connector := k.connector, keyspace := some k.name, name }

namespace Table

def presenceQuery : String :=
  "SELECT table_name FROM system_schema.tables WHERE keyspace_name = ? AND table_name = ?"

def columnsQuery : String :=
  "SELECT column_name AS name, type, kind FROM system_schema.columns " ++
    "WHERE table_name = ? AND keyspace_name = ?"

def requiredKeyspace (t : Table) : Except CqlError String :=
  match t.keyspace with
  | some k => .ok k
  | none => .error (.configuration (.noKeyspace t.name))

def qualifiedName (t : Table) : Except CqlError String := do
  let keyspace ← t.requiredKeyspace
  let keyspace ← t.connector.formatter.escapeName keyspace
  let name ← t.connector.formatter.escapeName t.name
  .ok (keyspace ++ "." ++ name)

def columnDefinition (t : Table) (f : Field) : Except CqlError String := do
  let name ← t.connector.formatter.escapeName f.name
  let type ← f.columnType
  .ok (name ++ " " ++ type)

def isPresent (t : Table) : Request Bool :=
  Request.givenOk t.requiredKeyspace fun keyspace =>
    (t.connector.execute (.text presenceQuery) [.str keyspace, .str t.name]).andThen fun rows =>
      Request.ok (!rows.isEmpty)

def readColumns (rows : List Row) : Except CqlError (List Column) :=
  match rows.mapM Column.ofRow with
  | .ok columns => .ok columns
  | .error e => .error (.json (.shape e))

def columns (t : Table) : Request (List Column) :=
  Request.givenOk t.requiredKeyspace fun keyspace =>
    (t.connector.execute (.text columnsQuery) [.str t.name, .str keyspace]).andThen fun rows =>
      Request.ofExcept (readColumns rows)

def keyClause (names : List String) : List String :=
  if names.isEmpty then [] else ["PRIMARY KEY (" ++ ", ".intercalate names ++ ")"]

def creation (t : Table) (fields : List Field) : Except CqlError String :=
  if fields.isEmpty then .error (.configuration (.noFields t.name))
  else do
    let definitions ← fields.mapM t.columnDefinition
    let key ← (fields.filter Field.primary).mapM fun f => t.connector.formatter.escapeName f.name
    let name ← t.qualifiedName
    .ok ("CREATE TABLE IF NOT EXISTS " ++ name ++ " (" ++
      ", ".intercalate (definitions ++ keyClause key) ++ ")")

def create (t : Table) (fields : List Field) : Request Unit :=
  Request.givenOk (t.creation fields) fun cql =>
    (t.connector.execute (.text cql) []).andThen fun _ =>
      .log (.tableReady t.name) (Request.ok ())

def addition (t : Table) (qualifiedName : String) (f : Field) : Except CqlError String :=
  if f.primary then .error (.configuration (.addedPrimaryKey f.name t.name))
  else do .ok ("ALTER TABLE " ++ qualifiedName ++ " ADD " ++ (← t.columnDefinition f))

def additions (t : Table) (qualifiedName : String) (present : List Column) (fields : List Field) :
    Except CqlError (List String) :=
  (fields.filter fun f => !(present.map Column.name).contains f.name).mapM
    (t.addition qualifiedName)

def executeAll (c : Connector) : List String → Request Unit
  | [] => Request.ok ()
  | cql :: rest => (c.execute (.text cql) []).andThen fun _ => executeAll c rest

def reportAdded (t : Table) (added : Nat) : Request Unit :=
  if added = 0 then Request.ok () else .log (.tableChanged t.name added) (Request.ok ())

def extend (t : Table) (qualifiedName : String) (fields : List Field) : Request Unit :=
  t.columns.andThen fun present =>
    Request.givenOk (t.additions qualifiedName present fields) fun statements =>
      (executeAll t.connector statements).andThen fun _ => t.reportAdded statements.length

/-- Brings the table in line with fields: creates it, or adds the columns that it lacks. -/
def change (t : Table) (fields : List Field) : Request Unit :=
  Request.givenOk t.qualifiedName fun qualifiedName =>
    t.isPresent.andThen fun present =>
      if present then t.extend qualifiedName fields else t.create fields

end Table

end CqlClient
