import CqlClient.Error
import CqlClient.Query.Json
import CqlClient.Text.Blank

/-!
# Connector configuration

What a connector needs to know to reach a cluster, and the conditions under which a transport can
use it.
-/

namespace CqlClient

structure Config where
  contactPoints : List String
  localDatacenter : Option String := none
  keyspace : Option String := none
  username : Option String := none
  password : Option String := none
  connectTimeoutSecs : Option Nat := none
  requestTimeoutSecs : Option Nat := none
  deriving DecidableEq

namespace Config

def standard : Config := { contactPoints := ["127.0.0.1:9042"] }

def connectTimeout (c : Config) : Nat := c.connectTimeoutSecs.getD 10

def requestTimeout (c : Config) : Nat := c.requestTimeoutSecs.getD 30

def withCredentials (c : Config) (username password : String) : Config :=
  { c with username := some username, password := some password }

def fault? (c : Config) : Option ConfigurationFault :=
  if c.contactPoints.isEmpty then some .noContactPoint
  else
    match c.contactPoints.find? Text.isBlankText with
    | some point => some (.blankContactPoint point)
    | none =>
      if c.keyspace = some "" then some .emptyKeyspace
      else if c.username.isSome ≠ c.password.isSome then some .unpairedCredentials
      else none

def validated (c : Config) : Except CqlError Config :=
  match c.fault? with
  | some fault => .error (.configuration fault)
  | none => .ok c

def toJson (c : Config) : Json :=
  .obj (Json.optional "connect_timeout_secs" (c.connectTimeoutSecs.map fun n => .int n) ++
    [("contact_points", .arr (c.contactPoints.map .str))] ++
    Json.optional "keyspace" (c.keyspace.map .str) ++
    Json.optional "local_datacenter" (c.localDatacenter.map .str) ++
    Json.optional "password" (c.password.map .str) ++
    Json.optional "request_timeout_secs" (c.requestTimeoutSecs.map fun n => .int n) ++
    Json.optional "username" (c.username.map .str))

def settings (c : Config) : Members :=
  [("contact_points", .arr (c.contactPoints.map .str))] ++
    Json.optional "local_datacenter" (c.localDatacenter.map .str) ++
    Json.optional "keyspace" (c.keyspace.map .str) ++
    Json.optional "username" (c.username.map .str) ++
    Json.optional "password" (c.password.map .str) ++
    Json.optional "connect_timeout_secs" (c.connectTimeoutSecs.map fun n : Nat => .int n) ++
    Json.optional "request_timeout_secs" (c.requestTimeoutSecs.map fun n : Nat => .int n)

/-- The settings in the order in which an array gives them. -/
def keys : List String := ["contact_points", "local_datacenter", "keyspace", "username",
  "password", "connect_timeout_secs", "request_timeout_secs"]

def ofJson? (v : Json) : Option Config := do
  let members ← v.record? keys
  let contactPoints ← members.required "contact_points" (Json.listOf? Json.asString?)
  let localDatacenter ← members.optional "local_datacenter" Json.asString?
  let keyspace ← members.optional "keyspace" Json.asString?
  let username ← members.optional "username" Json.asString?
  let password ← members.optional "password" Json.asString?
  let connectTimeoutSecs ← members.optional "connect_timeout_secs" Json.asNat64?
  let requestTimeoutSecs ← members.optional "request_timeout_secs" Json.asNat64?
  some { contactPoints, localDatacenter, keyspace, username, password, connectTimeoutSecs,
         requestTimeoutSecs }

end Config

end CqlClient
