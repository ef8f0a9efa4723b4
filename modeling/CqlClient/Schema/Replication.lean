import CqlClient.Format.Literal
import CqlClient.Query.Json

/-!
# Replication

How a keyspace is replicated.
-/

namespace CqlClient

inductive ReplicationStrategy where
  | simple
  | networkTopology
  deriving DecidableEq

namespace ReplicationStrategy

def text : ReplicationStrategy → String
  | .simple => "SimpleStrategy"
  | .networkTopology => "NetworkTopologyStrategy"

def ofText? : String → Option ReplicationStrategy
  | "SimpleStrategy" => some .simple
  | "NetworkTopologyStrategy" => some .networkTopology
  | _ => none

end ReplicationStrategy

/-- The replication of a keyspace: a factor for the cluster, and one for each datacenter. -/
structure Replication where
  strategy : ReplicationStrategy
  factor : Option Nat := none
  /-- Datacenters in increasing order of their names. -/
  datacenters : List (String × Nat) := []
  deriving DecidableEq

/-- Puts an entry in its place among entries with increasing names, replacing one with its name. -/
def insertFactor (name : String) (n : Nat) : List (String × Nat) → List (String × Nat)
  | [] => [(name, n)]
  | (m, k) :: rest =>
    if name < m then (name, n) :: (m, k) :: rest
    else if name = m then (name, n) :: rest
    else (m, k) :: insertFactor name n rest

namespace Replication

def simple (factor : Nat) : Replication := { strategy := .simple, factor := some factor }

/-- A factor for each datacenter; of two for one the later counts. -/
def networkTopology (datacenters : List (String × Nat)) : Replication where
  strategy := .networkTopology
  datacenters := datacenters.foldl (fun acc (name, n) => insertFactor name n acc) []

def members (r : Replication) : Members :=
  ("class", .str r.strategy.text) ::
    (Json.optional "replication_factor" (r.factor.map fun n => .int n) ++
      r.datacenters.map fun (name, n) => (name, .int n))

def toJson (r : Replication) : Json := .ofMembers r.members

def toLiteral (r : Replication) : String := definitionLiteral (.obj r.members)

def factor? (v : Json) : Option Nat := v.asNat64?.filter (· < Nat.pow 2 32)

def datacenters? (members : Members) : Option (List (String × Nat)) :=
  (members.filter fun (key, _) => key ≠ "class" && key ≠ "replication_factor").mapM
    fun (key, v) => (factor? v).map (key, ·)

def ofJson? : Json → Option Replication
  | .obj members => do
    let strategy ← Members.required members "class" fun v =>
      v.choice?.bind ReplicationStrategy.ofText?
    let factor ← Members.optional members "replication_factor" factor?
    let datacenters ← datacenters? members
    some { strategy, factor, datacenters }
  | _ => none

end Replication

structure KeyspaceOptions where
  replication : Replication := Replication.simple 1
  deriving DecidableEq

namespace KeyspaceOptions

def toJson (o : KeyspaceOptions) : Json := .obj [("replication", o.replication.toJson)]

def ofJson? (v : Json) : Option KeyspaceOptions := do
  let members ← v.record? ["replication"]
  let replication ← members.defaulted "replication" (Replication.simple 1) Replication.ofJson?
  some { replication }

end KeyspaceOptions

end CqlClient
