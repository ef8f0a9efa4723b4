import CqlClient.Error

/-!
# Log events

What a connector and its transport report on the way.
-/

namespace CqlClient

inductive LogLevel where
  | debug
  | info
  | warn
  | error
  deriving DecidableEq

def LogLevel.text : LogLevel → String
  | .debug => "DEBUG"
  | .info => "INFO"
  | .warn => "WARN"
  | .error => "ERROR"

inductive TransportEvent where
  | released
  | decoded (rows : Nat)

inductive Event where
  | connecting (contactPoints : List String)
  | connected
  | connectFailed (e : CqlError)
  | compileFailed (e : CqlError)
  | executing (cql : String)
  | serverWarning (cql warning : String)
  | statementFailed (cql : String) (e : CqlError)
  | closeFailed (e : CqlError)
  | closed
  | keyspaceReady (name : String)
  | tableReady (name : String)
  | tableChanged (name : String) (added : Nat)
  | transport (e : TransportEvent)

namespace Event

def level : Event → LogLevel
  | .connecting _ => .info
  | .connected => .info
  | .connectFailed _ => .error
  | .compileFailed _ => .error
  | .executing _ => .debug
  | .serverWarning _ _ => .warn
  | .statementFailed _ _ => .error
  | .closeFailed _ => .warn
  | .closed => .info
  | .keyspaceReady _ => .info
  | .tableReady _ => .info
  | .tableChanged _ _ => .info
  | .transport _ => .debug

def message : Event → String
  | .connecting points =>
    "Connecting to Cassandra at " ++ Text.bracketed (points.map Text.quoted)
  | .connected => "Connected to Cassandra"
  | .connectFailed e => "Cassandra connection failed: " ++ e.message
  | .compileFailed e => "Failed to compile statement: " ++ e.message
  | .executing cql => "Executing CQL: " ++ cql
  | .serverWarning cql warning => "Cassandra warning for '" ++ cql ++ "': " ++ warning
  | .statementFailed cql e => "CQL '" ++ cql ++ "' failed: " ++ e.message
  | .closeFailed e => "Error closing failed Cassandra connection: " ++ e.message
  | .closed => "Cassandra connection closed"
  | .keyspaceReady name => "Keyspace '" ++ name ++ "' ready"
  | .tableReady name => "Table '" ++ name ++ "' ready"
  | .tableChanged name added =>
    "Table '" ++ name ++ "' changed: " ++ toString added ++ " column(s) added"
  | .transport .released => "Releasing Cassandra session"
  | .transport (.decoded rows) => "Decoded " ++ toString rows ++ " row(s)"

def line (e : Event) : String := e.level.text ++ " " ++ e.message

end Event

end CqlClient
