import CqlClient.Connector.Call
import CqlClient.Format.Query
import CqlClient.Schema.Field

/-!
# Connectors

A connector holds at most one session. The first statement opens it, a failure drops it, and the
next statement opens another.
-/

namespace CqlClient

structure Connector where
  config : Config
  formatter : Formatter := .cql

namespace Connector

def ofConfig (config : Config) : Except CqlError Connector := do
  .ok { config := ← config.validated }

def withFormatter (c : Connector) (formatter : Formatter) : Connector := { c with formatter }

def session (c : Connector) : Request Session :=
  .look fun
    | some s => Request.ok s
    | none => .claim fun
      | some s => Request.ok s
      | none =>
        .log (.connecting c.config.contactPoints) <| .handshake c.config fun
          | .ok s => .log .connected (Request.ok s)
          | .error e => .log (.connectFailed e) (Request.fail e)

def connect (c : Connector) : Request Unit := c.session.andThen fun _ => Request.ok ()

def close (_ : Connector) : Request Unit :=
  .take fun
    | none => Request.ok ()
    | some s => .shutdown s fun
      | .ok () => .log .closed (Request.ok ())
      | .error e => Request.fail e

/-- Drops a session after a failure, unless another one has taken its place. -/
def forceClose (s : Session) : Call Unit :=
  .discard s fun
    | false => .done ()
    | true => .shutdown s fun
      | .ok () => .done ()
      | .error e => .log (.closeFailed e) (.done ())

def failOn {α : Type} (s : Session) (event : Event) (e : CqlError) : Request α :=
  .log event ((forceClose s).bind fun () => Request.fail e)

def executeOn (s : Session) (cql : String) (params : List Json) : Request (List Row) :=
  .log (.executing cql) <| .send s cql params fun
    | .ok response =>
      Call.logAll (response.warnings.map (.serverWarning cql))
        (Request.ok (response.rows.getD []))
    | .error e => failOn s (.statementFailed cql e) e

def execute (c : Connector) (statement : Statement) (params : List Json) : Request (List Row) :=
  c.session.andThen fun s =>
    match c.formatter.render statement with
    | .ok cql => executeOn s cql params
    | .error e => failOn s (.compileFailed e) e.asRender

def healthStatement : String := "SELECT release_version FROM system.local"

def healthCheck (c : Connector) : Request Unit :=
  (c.execute (.text healthStatement) []).andThen fun _ => Request.ok ()

def kind : String := "cassandra"

/-! ## Callbacks -/

def withCallback {α β : Type} (request : Request α) (callback : Except CqlError α → β) : Call β :=
  Call.map callback request

/-- The request of an operation that takes a callback. The operation comes to what it called the
callback with, or to none if it dropped the callback. -/
def lift {α : Type} (operation : Call (Option (Except CqlError α))) : Request α :=
  Call.map
    (fun called => called.getD (.error (.internal "Callback dropped without being called")))
    operation

end Connector

end CqlClient
