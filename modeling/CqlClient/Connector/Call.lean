import CqlClient.Config.Basic
import CqlClient.Connector.Event

/-!
# Calls

A call on a connector as the tree of its atomic steps. Calls share one handle, which holds at most
one session, and a lock on it. A step that looks at the handle or changes it needs the lock to be
free; `claim` keeps the lock when it finds no session, and the handshake that follows releases it.
-/

namespace CqlClient

/-- A session with the cluster; every handshake gives a new one. -/
structure Session where
  id : Nat
  deriving DecidableEq

abbrev Row := Members

structure Response where
  /-- The rows; none for a statement without a result set. -/
  rows : Option (List Row) := none
  warnings : List String := []

inductive Call (α : Type) where
  | done (result : α)
  | look (next : Option Session → Call α)
  /-- Looks at the handle and keeps the lock if there is no session. -/
  | claim (next : Option Session → Call α)
  /-- Asks for a session; a new one becomes the handle, and the lock is released. -/
  | handshake (config : Config) (next : Except CqlError Session → Call α)
  | send (session : Session) (cql : String) (params : List Json)
      (next : Except CqlError Response → Call α)
  /-- Empties the handle if it holds this very session, and tells whether it did. -/
  | discard (session : Session) (next : Bool → Call α)
  | take (next : Option Session → Call α)
  | shutdown (session : Session) (next : Except CqlError Unit → Call α)
  | log (event : Event) (next : Call α)

namespace Call

def bind {α β : Type} : Call α → (α → Call β) → Call β
  | .done a, f => f a
  | .look next, f => .look fun s => (next s).bind f
  | .claim next, f => .claim fun s => (next s).bind f
  | .handshake config next, f => .handshake config fun r => (next r).bind f
  | .send s cql params next, f => .send s cql params fun r => (next r).bind f
  | .discard s next, f => .discard s fun b => (next b).bind f
  | .take next, f => .take fun s => (next s).bind f
  | .shutdown s next, f => .shutdown s fun r => (next r).bind f
  | .log e next, f => .log e (next.bind f)

def map {α β : Type} (f : α → β) (call : Call α) : Call β := call.bind fun a => .done (f a)

def logAll {α : Type} (events : List Event) (next : Call α) : Call α :=
  events.foldr .log next

end Call

abbrev Request (α : Type) := Call (Except CqlError α)

namespace Request

def ok {α : Type} (a : α) : Request α := Call.done (Except.ok a)

def fail {α : Type} (e : CqlError) : Request α := Call.done (Except.error e)

def ofExcept {α : Type} (r : Except CqlError α) : Request α := Call.done r

def andThen {α β : Type} (request : Request α) (f : α → Request β) : Request β :=
  Call.bind request fun
    | .ok a => f a
    | .error e => fail e

def givenOk {α β : Type} (r : Except CqlError α) (f : α → Request β) : Request β :=
  match r with
  | .ok a => f a
  | .error e => fail e

end Request

end CqlClient
