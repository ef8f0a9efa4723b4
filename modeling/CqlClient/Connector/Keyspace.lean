import CqlClient.Connector.Basic
import CqlClient.Schema.Replication

/-!
# Keyspaces

A keyspace of the cluster: whether it is there, and its creation.
-/

namespace CqlClient

structure Keyspace where
  connector : Connector
  name : String

namespace Connector

def keyspace (connector : Connector) (name : String) : Keyspace := { connector, name }

end Connector

namespace Keyspace

def presenceQuery : String :=
  "SELECT keyspace_name FROM system_schema.keyspaces WHERE keyspace_name = ?"

def isPresent (k : Keyspace) : Request Bool :=
  (k.connector.execute (.text presenceQuery) [.str k.name]).andThen fun rows =>
    Request.ok (!rows.isEmpty)

def creation (k : Keyspace) (options : KeyspaceOptions) : Except CqlError String := do
  let name ← k.connector.formatter.escapeName k.name
  .ok ("CREATE KEYSPACE IF NOT EXISTS " ++ name ++ " WITH replication = " ++
    options.replication.toLiteral)

def create (k : Keyspace) (options : KeyspaceOptions) : Request Unit :=
  Request.givenOk (k.creation options) fun cql =>
    (k.connector.execute (.text cql) []).andThen fun _ =>
      .log (.keyspaceReady k.name) (Request.ok ())

end Keyspace

end CqlClient
