import CqlClient.Binary.Shortest
import CqlClient.Cql.Inet
import CqlClient.Cql.Type
import CqlClient.Cql.Uuid
import CqlClient.Text.Digits

/-!
# CQL values

The values that statements are run with and rows are made of, and the text by which a value without
a JSON form is shown.
-/

namespace CqlClient

inductive CqlValue where
  | ascii (s : String)
  | text (s : String)
  | boolean (b : Bool)
  | tinyInt (n : Int)
  | smallInt (n : Int)
  | int (n : Int)
  | bigInt (n : Int)
  | counter (n : Int)
  | float (x : Single)
  | double (x : Double)
  /-- The unscaled integer as bytes, and the number of digits after the point. -/
  | decimal (unscaled : List UInt8) (scale : Int)
  | varint (bytes : List UInt8)
  | blob (bytes : List UInt8)
  | uuid (u : Uuid)
  | timeuuid (u : Uuid)
  /-- Milliseconds from the start of 1970. -/
  | timestamp (millis : Int)
  /-- A count of days in which 1970-01-01 is `2 ^ 31`. -/
  | date (days : Nat)
  /-- Nanoseconds from midnight. -/
  | time (nanos : Int)
  | duration (months days nanoseconds : Int)
  | inet (a : InetAddress)
  | list (items : List CqlValue)
  | set (items : List CqlValue)
  | map (entries : List (CqlValue × CqlValue))
  | tuple (items : List (Option CqlValue))
  | userDefined (keyspace name : String) (fields : List (String × Option CqlValue))
  | vector (items : List CqlValue)
  | empty

namespace CqlValue

open Text

/-- Floats in messages are positional from 0.0001 up to below 10^16; a tie goes upward. -/
def messageStyle : NumberStyle where
  tie := .upward
  leastPositional := -4
  mostPositional := 16
  signedExponent := false

def bytesText (bytes : List UInt8) : String := bracketed (bytes.map fun b => toString b.toNat)

def varintText (bytes : List UInt8) : String := applied "CqlVarint" [bytesText bytes]

def optionText : Option String → String
  | none => "None"
  | some s => applied "Some" [s]

mutual

def describe : CqlValue → String
  | .ascii s => applied "Ascii" [quoted s]
  | .text s => applied "Text" [quoted s]
  | .boolean b => applied "Boolean" [boolText b]
  | .tinyInt n => applied "TinyInt" [intText n]
  | .smallInt n => applied "SmallInt" [intText n]
  | .int n => applied "Int" [intText n]
  | .bigInt n => applied "BigInt" [intText n]
  | .counter n => applied "Counter" [applied "Counter" [intText n]]
  | .float x => applied "Float" [messageStyle.text .binary32 x.reading]
  | .double x => applied "Double" [messageStyle.text .binary64 x.reading]
  | .decimal unscaled scale => applied "Decimal"
      [recordText "CqlDecimal" [("int_val", varintText unscaled), ("scale", intText scale)]]
  | .varint bytes => applied "Varint" [varintText bytes]
  | .blob bytes => applied "Blob" [bytesText bytes]
  | .uuid u => applied "Uuid" [String.ofList u.chars]
  | .timeuuid u => applied "Timeuuid" [applied "CqlTimeuuid" [String.ofList u.chars]]
  | .timestamp millis => applied "Timestamp" [applied "CqlTimestamp" [intText millis]]
  | .date days => applied "Date" [applied "CqlDate" [toString days]]
  | .time nanos => applied "Time" [applied "CqlTime" [intText nanos]]
  | .duration months days nanoseconds => applied "Duration" [recordText "CqlDuration"
      [("months", intText months), ("days", intText days), ("nanoseconds", intText nanoseconds)]]
  | .inet a => applied "Inet" [String.ofList a.chars]
  | .list items => applied "List" [bracketed (describeAll items)]
  | .set items => applied "Set" [bracketed (describeAll items)]
  | .map entries => applied "Map" [bracketed (describeEntries entries)]
  | .tuple items => applied "Tuple" [bracketed (describeOptions items)]
  | .userDefined keyspace name fields => recordText "UserDefinedType"
      [("keyspace", quoted keyspace), ("name", quoted name),
        ("fields", bracketed (describeFields fields))]
  | .vector items => applied "Vector" [bracketed (describeAll items)]
  | .empty => "Empty"

def describeAll : List CqlValue → List String
  | [] => []
  | v :: rest => v.describe :: describeAll rest

def describeEntries : List (CqlValue × CqlValue) → List String
  | [] => []
  | (k, v) :: rest => pairText k.describe v.describe :: describeEntries rest

def describeOptions : List (Option CqlValue) → List String
  | [] => []
  | none :: rest => optionText none :: describeOptions rest
  | some v :: rest => optionText (some v.describe) :: describeOptions rest

def describeFields : List (String × Option CqlValue) → List String
  | [] => []
  | (name, none) :: rest => pairText (quoted name) (optionText none) :: describeFields rest
  | (name, some v) :: rest =>
    pairText (quoted name) (optionText (some v.describe)) :: describeFields rest

end

end CqlValue

end CqlClient
