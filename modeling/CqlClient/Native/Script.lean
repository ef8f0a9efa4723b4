import CqlClient.Native.Transport

/-!
# Scripted clusters

A cluster that does as it is told, and records what it was asked for.
-/

namespace CqlClient

/-- What a scripted cluster will do, and what it was asked for. -/
structure ClusterScript where
  buildError : Option String := none
  prepareError : Option String := none
  runError : Option String := none
  markers : List Marker := []
  result : QueryResult := {}
  builds : List SessionSettings := []
  prepared : List String := []
  bound : List Cells := []

namespace ClusterScript

def orError {α : Type} (e : Option String) (value : α) : Except String α :=
  match e with
  | some e => .error e
  | none => .ok value

def cluster : Cluster ClusterScript where
  build settings k := (orError k.buildError (), { k with builds := k.builds ++ [settings] })
  prepare _ cql k := (orError k.prepareError k.markers, { k with prepared := k.prepared ++ [cql] })
  run _ _ cells k := (orError k.runError k.result, { k with bound := k.bound ++ [cells] })

end ClusterScript

end CqlClient
