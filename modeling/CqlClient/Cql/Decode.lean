import CqlClient.Cql.Bind

/-!
# Decoding

CQL values as JSON. A decimal of too many places cannot be written, and the program stops at a value
that holds one.
-/

namespace CqlClient.CqlValue

def floatJson (x : Double) : Json := if x.isFinite then .float x else .null

/-- A decimal is its text; one of no bytes or of more than 128 bits has none. -/
def decimalJson (unscaled : List UInt8) (scale : Int) : Json :=
  match TwosComplement.ofBytes? unscaled with
  | some n => .str (String.ofList (DecimalText.chars n scale))
  | none => .null

def timestampJson (millis : Int) : Json :=
  match Instant.chars? millis with
  | some cs => .str (String.ofList cs)
  | none => .int millis

def dateJson (days : Nat) : Json :=
  match Date.ofDays? (days - epochDay) with
  | some d => .str (String.ofList d.chars)
  | none => .int days

def low32 (n : Int) : Nat := (n % Int.pow 2 32).toNat

/-- A time is its text, or the number if it is no clock reading. Its seconds and its nanoseconds are
each taken by 32 bits. -/
def timeJson (nanos : Int) : Json :=
  let second : Int := Clock.nanosPerSecond
  match Clock.ofSeconds? (low32 (nanos.tdiv second)) (low32 (nanos.tmod second)) with
  | some clock => .str (String.ofList clock.chars)
  | none => .int nanos

def textKeys? : List (CqlValue × CqlValue) → Option (List String)
  | [] => some []
  | (.text s, _) :: rest => (textKeys? rest).map (s :: ·)
  | (.ascii s, _) :: rest => (textKeys? rest).map (s :: ·)
  | _ :: _ => none

mutual

/-- The JSON form of a value. A map with text keys is an object, any other an array of pairs. -/
def toJson : CqlValue → Json
  | .ascii s => .str s
  | .text s => .str s
  | .boolean b => .bool b
  | .tinyInt n => .int n
  | .smallInt n => .int n
  | .int n => .int n
  | .bigInt n => .int n
  | .counter n => .int n
  | .float x => floatJson x.toDouble
  | .double x => floatJson x
  | .decimal unscaled scale => decimalJson unscaled scale
  | .varint bytes => .str (describe (.varint bytes))
  | .blob bytes => .arr (bytes.map fun b => .int b.toNat)
  | .uuid u => .str (String.ofList u.chars)
  | .timeuuid u => .str (String.ofList u.chars)
  | .timestamp millis => timestampJson millis
  | .date days => dateJson days
  | .time nanos => timeJson nanos
  | .duration months days nanoseconds =>
    .obj [("days", .int days), ("months", .int months), ("nanoseconds", .int nanoseconds)]
  | .inet a => .str (String.ofList a.chars)
  | .list items => .arr (itemsToJson items)
  | .set items => .arr (itemsToJson items)
  | .map entries =>
    match textKeys? entries with
    | some keys => .ofMembers (keys.zip (valuesToJson entries))
    | none => .arr (entriesToJson entries)
  | .tuple items => .arr (cellsToJson items)
  | .userDefined _ _ fields => .ofMembers (fieldsToJson fields)
  | .vector items => .str (describe (.vector items))
  | .empty => .null

def itemsToJson : List CqlValue → List Json
  | [] => []
  | v :: rest => v.toJson :: itemsToJson rest

def valuesToJson : List (CqlValue × CqlValue) → List Json
  | [] => []
  | (_, v) :: rest => v.toJson :: valuesToJson rest

def entriesToJson : List (CqlValue × CqlValue) → List Json
  | [] => []
  | (k, v) :: rest => .arr [k.toJson, v.toJson] :: entriesToJson rest

def cellsToJson : List (Option CqlValue) → List Json
  | [] => []
  | none :: rest => .null :: cellsToJson rest
  | some v :: rest => v.toJson :: cellsToJson rest

def fieldsToJson : List (String × Option CqlValue) → Members
  | [] => []
  | (name, none) :: rest => (name, .null) :: fieldsToJson rest
  | (name, some v) :: rest => (name, v.toJson) :: fieldsToJson rest

end

def cellToJson : Option CqlValue → Json
  | none => .null
  | some v => v.toJson

/-! ## What can be written -/

def decimalIsWritten (unscaled : List UInt8) (scale : Int) : Bool :=
  match TwosComplement.ofBytes? unscaled with
  | some n => (DecimalText.write? n scale).isSome
  | none => true

mutual

def isWritten : CqlValue → Bool
  | .decimal unscaled scale => decimalIsWritten unscaled scale
  | .list items => itemsAreWritten items
  | .set items => itemsAreWritten items
  | .map entries => entriesAreWritten entries
  | .tuple items => cellsAreWritten items
  | .userDefined _ _ fields => fieldsAreWritten fields
  | _ => true

def itemsAreWritten : List CqlValue → Bool
  | [] => true
  | v :: rest => v.isWritten && itemsAreWritten rest

def entriesAreWritten : List (CqlValue × CqlValue) → Bool
  | [] => true
  | (k, v) :: rest => k.isWritten && v.isWritten && entriesAreWritten rest

def cellsAreWritten : List (Option CqlValue) → Bool
  | [] => true
  | none :: rest => cellsAreWritten rest
  | some v :: rest => v.isWritten && cellsAreWritten rest

def fieldsAreWritten : List (String × Option CqlValue) → Bool
  | [] => true
  | (_, none) :: rest => fieldsAreWritten rest
  | (_, some v) :: rest => v.isWritten && fieldsAreWritten rest

end

/-- Decodes a value; `none` if it has a decimal that cannot be written, at which the program stops. -/
def decode? (v : CqlValue) : Option Json := if v.isWritten then some v.toJson else none

def decodeCell? : Option CqlValue → Option Json
  | none => some .null
  | some v => v.decode?

end CqlClient.CqlValue
