import CqlClient.Calendar.Instant
import CqlClient.Cql.DecimalText
import CqlClient.Cql.Value
import CqlClient.Error

/-!
# Binding

JSON parameters as CQL values of the type that a statement's bind variable has. Null binds to no
value; inside a collection it is a fault.
-/

namespace CqlClient.CqlValue

/-- The day count of 1970-01-01. -/
def epochDay : Int := Int.pow 2 31

def intOfBits? (bits : Nat) (v : Json) : Option Int :=
  v.asInt64?.filter fun n => -Int.pow 2 (bits - 1) ≤ n && n < Int.pow 2 (bits - 1)

def decimal? (v : Json) : Option CqlValue :=
  let text := match v with
    | .str s => some s.toList
    | .int n => some (Text.intChars n)
    | .float x => some (Json.floatText x).toList
    | _ => none
  (text.bind DecimalText.read?).map fun (unscaled, scale) =>
    .decimal (TwosComplement.minimalBytes unscaled) scale

def timestamp? : Json → Option CqlValue
  | .str s => (Instant.ofChars? s.toList).map .timestamp
  | v => v.asInt64?.map .timestamp

def date? (v : Json) : Option CqlValue := do
  let date ← Date.ofChars? (← v.asString?).toList
  let days := date.toDays + epochDay
  if 0 ≤ days ∧ days < Int.pow 2 32 then some (.date days.toNat) else none

def time? (v : Json) : Option CqlValue := do
  let clock ← Clock.ofChars? (← v.asString?).toList
  some (.time clock.toNanos)

def byte? (v : Json) : Option UInt8 := (v.asNat64?.filter (· < 256)).map UInt8.ofNat

def bytes? : Json → Option (List UInt8)
  | .arr items => items.mapM byte?
  | _ => none

def uuid? (v : Json) : Option Uuid := v.asString?.bind fun s => Uuid.ofChars? s.toList

def inet? (v : Json) : Option InetAddress :=
  v.asString?.bind fun s => InetAddress.ofChars? s.toList

/-- A value of a native type. Durations and big integers have no JSON form to bind from. -/
def ofNative? (t : NativeType) (v : Json) : Option CqlValue :=
  match t with
  | .ascii => v.asString?.map .ascii
  | .text => v.asString?.map .text
  | .boolean => v.asBool?.map .boolean
  | .tinyInt => (intOfBits? 8 v).map .tinyInt
  | .smallInt => (intOfBits? 16 v).map .smallInt
  | .int => (intOfBits? 32 v).map .int
  | .bigInt => v.asInt64?.map .bigInt
  | .counter => v.asInt64?.map .counter
  | .float => v.asDouble?.map fun x => .float x.toSingle
  | .double => v.asDouble?.map .double
  | .decimal => decimal? v
  | .uuid => (uuid? v).map .uuid
  | .timeuuid => (uuid? v).map .timeuuid
  | .timestamp => timestamp? v
  | .date => date? v
  | .time => time? v
  | .inet => (inet? v).map .inet
  | .blob => (bytes? v).map .blob
  | .duration => none
  | .varint => none

def orFault (value : Json) (type : CqlType) : Option CqlValue → Except BindFault CqlValue
  | some c => .ok c
  | none => .error ⟨value, type⟩

/-- Binds the elements of a list or a set; faults name the element type. -/
def bindElements (element : CqlType) (bind : Json → Except BindFault (Option CqlValue)) :
    Json → Except BindFault (List CqlValue)
  | .arr items => items.mapM fun item => do orFault item element (← bind item)
  | v => .error ⟨v, element⟩

/-- Binds the members of an object as entries of a map; a null in one is a fault of the whole. -/
def bindEntries (whole : Json) (type : CqlType)
    (bindKey bindValue : Json → Except BindFault (Option CqlValue)) :
    Members → Except BindFault (List (CqlValue × CqlValue))
  | [] => .ok []
  | (key, item) :: rest => do
    let key ← orFault whole type (← bindKey (.str key))
    let item ← orFault whole type (← bindValue item)
    let entries ← bindEntries whole type bindKey bindValue rest
    .ok ((key, item) :: entries)

/-- The value of a parameter at a type; null is no value. -/
def bind (type : CqlType) (v : Json) : Except BindFault (Option CqlValue) :=
  match v with
  | .null => .ok none
  | v =>
    match type with
    | .native t => do .ok (some (← orFault v (.native t) (ofNative? t v)))
    | .list _ element => do .ok (some (.list (← bindElements element (bind element) v)))
    | .set _ element => do .ok (some (.set (← bindElements element (bind element) v)))
    | .map frozen key value =>
      match v with
      | .obj members => do
        let entries ← bindEntries v (.map frozen key value) (bind key) (bind value) members
        .ok (some (.map entries))
      | v => .error ⟨v, .map frozen key value⟩
    | type => .error ⟨v, type⟩

end CqlClient.CqlValue
