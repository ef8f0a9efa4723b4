import CqlClient.Text.Quoted

/-!
# CQL types

The types that a column or a bind variable can have, and the text by which messages name them.
-/

namespace CqlClient

inductive NativeType where
  | ascii
  | boolean
  | blob
  | counter
  | date
  | decimal
  | double
  | duration
  | float
  | int
  | bigInt
  | text
  | timestamp
  | inet
  | smallInt
  | tinyInt
  | time
  | timeuuid
  | uuid
  | varint
  deriving DecidableEq, Repr

inductive CqlType where
  | native (t : NativeType)
  | list (frozen : Bool) (element : CqlType)
  | set (frozen : Bool) (element : CqlType)
  | map (frozen : Bool) (key value : CqlType)
  | tuple (elements : List CqlType)
  | vector (element : CqlType) (dimensions : Nat)
  | userDefined (frozen : Bool) (keyspace name : String) (fields : List (String × CqlType))

def NativeType.label : NativeType → String
  | .ascii => "Ascii"
  | .boolean => "Boolean"
  | .blob => "Blob"
  | .counter => "Counter"
  | .date => "Date"
  | .decimal => "Decimal"
  | .double => "Double"
  | .duration => "Duration"
  | .float => "Float"
  | .int => "Int"
  | .bigInt => "BigInt"
  | .text => "Text"
  | .timestamp => "Timestamp"
  | .inet => "Inet"
  | .smallInt => "SmallInt"
  | .tinyInt => "TinyInt"
  | .time => "Time"
  | .timeuuid => "Timeuuid"
  | .uuid => "Uuid"
  | .varint => "Varint"

namespace Text

def boolText (b : Bool) : String := if b then "true" else "false"

def recordText (name : String) (members : List (String × String)) : String :=
  name ++ " \x7b " ++ ", ".intercalate (members.map fun (k, v) => k ++ ": " ++ v) ++ " \x7d"

def applied (name : String) (args : List String) : String :=
  name ++ "(" ++ ", ".intercalate args ++ ")"

def pairText (a b : String) : String := "(" ++ a ++ ", " ++ b ++ ")"

end Text

namespace CqlType

open Text

def collectionText (frozen : Bool) (kind : String) : String :=
  recordText "Collection" [("frozen", boolText frozen), ("typ", kind)]

mutual

def describe : CqlType → String
  | .native t => applied "Native" [t.label]
  | .list frozen element => collectionText frozen (applied "List" [element.describe])
  | .set frozen element => collectionText frozen (applied "Set" [element.describe])
  | .map frozen key value => collectionText frozen (applied "Map" [key.describe, value.describe])
  | .tuple elements => applied "Tuple" [bracketed (describeAll elements)]
  | .vector element dimensions =>
    recordText "Vector" [("typ", element.describe), ("dimensions", toString dimensions)]
  | .userDefined frozen keyspace name fields =>
    recordText "UserDefinedType" [("frozen", boolText frozen),
      ("definition", recordText "UserDefinedType" [("name", quoted name),
        ("keyspace", quoted keyspace), ("field_types", bracketed (describeFields fields))])]

def describeAll : List CqlType → List String
  | [] => []
  | t :: rest => t.describe :: describeAll rest

def describeFields : List (String × CqlType) → List String
  | [] => []
  | (name, t) :: rest => pairText (quoted name) t.describe :: describeFields rest

end

end CqlType

end CqlClient
