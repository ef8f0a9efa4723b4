import CqlClient.Binary.Format

/-!
# JSON values

The value type shared by literals, parameters, rows and configurations. An object is a list of
members; `Json.ofMembers` brings it into its normal form, in which the keys strictly increase and of
two members with one key the later is kept.
-/

namespace CqlClient

inductive Json where
  | null
  | bool (b : Bool)
  | int (n : Int)
  | float (x : Double)
  | str (s : String)
  | arr (items : List Json)
  | obj (members : List (String × Json))

instance : Inhabited Json := ⟨.null⟩

abbrev Members := List (String × Json)

namespace Members

def find? (key : String) : Members → Option Json
  | [] => none
  | (k, v) :: rest => if k = key then some v else find? key rest

/-- Puts a member in its place among members with increasing keys, replacing one with its key. -/
def insert (key : String) (value : Json) : Members → Members
  | [] => [(key, value)]
  | (k, v) :: rest =>
    if key < k then (key, value) :: (k, v) :: rest
    else if key = k then (key, value) :: rest
    else (k, v) :: insert key value rest

/-- The keys in increasing order; of members with one key the last is kept. -/
def normalize (members : Members) : Members :=
  members.foldl (fun acc (k, v) => acc.insert k v) []

end Members

namespace Json

def ofMembers (members : Members) : Json := .obj members.normalize

def optional (key : String) (value : Option Json) : Members :=
  match value with
  | some v => [(key, v)]
  | none => []

def leastInt : Int := -Int.pow 2 63

def greatestInt : Int := Int.pow 2 64 - 1

mutual

/-- Integers are in range, floats are finite, and the keys of every object strictly increase. -/
def WellFormed : Json → Prop
  | .int n => leastInt ≤ n ∧ n ≤ greatestInt
  | .float x => x.isFinite
  | .arr items => ItemsWellFormed items
  | .obj members => (members.map Prod.fst).Pairwise (· < ·) ∧ MembersWellFormed members
  | _ => True

def ItemsWellFormed : List Json → Prop
  | [] => True
  | v :: rest => v.WellFormed ∧ ItemsWellFormed rest

def MembersWellFormed : List (String × Json) → Prop
  | [] => True
  | (_, v) :: rest => v.WellFormed ∧ MembersWellFormed rest

end

def asInt64? : Json → Option Int
  | .int n => if -Int.pow 2 63 ≤ n ∧ n < Int.pow 2 63 then some n else none
  | _ => none

def asNat64? : Json → Option Nat
  | .int n => if 0 ≤ n ∧ n < Int.pow 2 64 then some n.toNat else none
  | _ => none

def asString? : Json → Option String
  | .str s => some s
  | _ => none

def asBool? : Json → Option Bool
  | .bool b => some b
  | _ => none

def asDouble? : Json → Option Double
  | .int n => some (Double.ofInt n)
  | .float x => some x
  | _ => none

end Json

end CqlClient
