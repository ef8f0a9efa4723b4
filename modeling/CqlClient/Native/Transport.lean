import CqlClient.Connector.Run
import CqlClient.Cql.Decode

/-!
# The native transport

A transport over sessions of the native protocol: a statement is prepared, its parameters are bound
at the types of its markers, and it is run once with all of them. The rows of a result are decoded
to JSON, all or none. No cell is taken to hold a decimal that cannot be written.
-/

namespace CqlClient

structure SessionSettings where
  nodes : List String
  /-- Seconds to wait for a connection. -/
  connectTimeout : Nat
  /-- Seconds to wait for a response. -/
  requestTimeout : Nat
  /-- The datacenter whose nodes are asked first. -/
  datacenter : Option String := none
  credentials : Option (String × String) := none
  /-- The keyspace in use, and whether the case of its name counts. -/
  keyspace : Option (String × Bool) := none

/-- The settings of a configuration. Credentials count only as a pair. -/
def SessionSettings.ofConfig (c : Config) : SessionSettings where
  nodes := c.contactPoints
  connectTimeout := c.connectTimeout
  requestTimeout := c.requestTimeout
  datacenter := c.localDatacenter
  credentials :=
    match c.username, c.password with
    | some username, some password => some (username, password)
    | _, _ => none
  keyspace := c.keyspace.map (·, true)

structure Marker where
  name : String
  type : CqlType

/-- The cells of a row; none for a missing value. -/
abbrev Cells := List (Option CqlValue)

/-- The rows of a result, each of which may turn out to be unreadable, and so may all of them. -/
structure RowSet where
  columns : List String
  rows : Except String (List (Except String Cells))

structure QueryResult where
  warnings : List String := []
  /-- The rows, or why they cannot be read; none for a statement without a result set. -/
  rows : Option (Except String RowSet) := none

/-- Sessions of the native protocol, with a state of their own. Failures come as text. -/
structure Cluster (κ : Type) where
  build : SessionSettings → κ → Except String Unit × κ
  prepare : Session → String → κ → Except String (List Marker) × κ
  run : Session → String → Cells → κ → Except String QueryResult × κ

namespace Native

def bindParameter (marker : Marker) (param : Json) : Except CqlError (Option CqlValue) :=
  match CqlValue.bind marker.type param with
  | .ok value => .ok value
  | .error e => .error (.configuration (.unbindableParameter marker.name e))

def bindAll (markers : List Marker) (params : List Json) : Except CqlError Cells :=
  if markers.length = params.length then
    (markers.zip params).mapM fun (marker, param) => bindParameter marker param
  else .error (.configuration (.parameterCount markers.length params.length))

/-- A row keyed by column names; of two columns with one name the later counts. -/
def decodeRow (columns : List String) (cells : Cells) : Row :=
  Members.normalize (columns.zip (cells.map CqlValue.cellToJson))

def decodeRows (columns : List String) (rows : List (Except String Cells)) :
    Except CqlError (List Row) :=
  rows.mapM fun row =>
    match row with
    | .ok cells => .ok (decodeRow columns cells)
    | .error e => .error (.transport ("Failed to decode row: " ++ e))

def unreadable {α : Type} (e : String) : Except CqlError α :=
  .error (.transport ("Failed to read result rows: " ++ e))

def decodeRowSet : Option (Except String RowSet) → Except CqlError (Option (List Row))
  | none => .ok none
  | some (.error e) => unreadable e
  | some (.ok set) =>
    match set.rows with
    | .error e => unreadable e
    | .ok rows => do .ok (some (← decodeRows set.columns rows))

def decodeResult (result : QueryResult) : Reply Response :=
  match decodeRowSet result.rows with
  | .error e => { outcome := .error e }
  | .ok none => { outcome := .ok { rows := none, warnings := result.warnings } }
  | .ok (some rows) =>
    { outcome := .ok { rows := some rows, warnings := result.warnings }
      log := [.decoded rows.length] }

variable {κ : Type} (C : Cluster κ)

def connect (config : Config) (k : κ) : Reply Unit × κ :=
  match C.build (.ofConfig config) k with
  | (.ok (), k) => ({ outcome := .ok () }, k)
  | (.error e, k) => ({ outcome := .error (.transport ("Cassandra connection failed: " ++ e)) }, k)

def execute (s : Session) (cql : String) (params : List Json) (k : κ) : Reply Response × κ :=
  match C.prepare s cql k with
  | (.error e, k) =>
    ({ outcome := .error (.transport ("Failed to prepare statement: " ++ e)) }, k)
  | (.ok markers, k) =>
    match bindAll markers params with
    | .error e => ({ outcome := .error e }, k)
    | .ok cells =>
      match C.run s cql cells k with
      | (.error e, k) => ({ outcome := .error (.transport e) }, k)
      | (.ok result, k) => (decodeResult result, k)

def shutdown (_ : Session) (k : κ) : Reply Unit × κ :=
  ({ outcome := .ok (), log := [.released] }, k)

def transport : Transport κ where
  connect := connect C
  execute := execute C
  shutdown := shutdown

end Native

end CqlClient
