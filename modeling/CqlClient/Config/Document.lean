import CqlClient.Config.Basic
import CqlClient.Json.Document

/-!
# Configurations in JSON text

A configuration read from a JSON document, part by part: of several faults the first in the text is
reported, be it one of syntax or of shape.
-/

namespace CqlClient

namespace Json.Document

def found : Document → Except ReadError Found
  | .null => .ok .null
  | .bool b => .ok (.bool b)
  | .number n =>
    match n.value? with
    | some v => .ok v.found
    | none => .error .malformed
  | .str (some s) => .ok (.str s)
  | .str none => .error .malformed
  | .arr _ => .ok .sequence
  | .obj _ => .ok .map
  | .broken => .error .malformed

def mismatch {α : Type} (doc : Document) (expected : String) : Except ReadError α := do
  .error (.shape (.invalidType (← doc.found) expected))

def asText : Document → Except ReadError String
  | .str (some s) => .ok s
  | doc => doc.mismatch "a string"

def asTexts : Document → Except ReadError (List String)
  | .arr items => items.mapM asText
  | doc => doc.mismatch "a sequence"

def asNatural : Document → Except ReadError Nat
  | .number n =>
    match n.value? with
    | some (.int k) =>
      if 0 ≤ k then .ok k.toNat else .error (.shape (.invalidValue (.int k) "u64"))
    | some v => .error (.shape (.invalidType v.found "u64"))
    | none => .error .malformed
  | doc => doc.mismatch "u64"

def nullable {α : Type} (read : Document → Except ReadError α) :
    Document → Except ReadError (Option α)
  | .null => .ok none
  | doc => do .ok (some (← read doc))

end Json.Document

namespace Config

open Json (Document ReadError)

/-- The settings read so far; each is `none` until its key occurs. -/
structure Draft where
  contactPoints : Option (List String) := none
  localDatacenter : Option (Option String) := none
  keyspace : Option (Option String) := none
  username : Option (Option String) := none
  password : Option (Option String) := none
  connectTimeoutSecs : Option (Option Nat) := none
  requestTimeoutSecs : Option (Option Nat) := none

namespace Draft

def once {α : Type} (old : Option α) (key : String) (doc : Document)
    (read : Document → Except ReadError α) : Except ReadError (Option α) :=
  if old.isSome then .error (.shape (.duplicateField key))
  else do .ok (some (← read doc))

def optionalText : Document → Except ReadError (Option String) := Document.nullable Document.asText

def optionalNatural : Document → Except ReadError (Option Nat) :=
  Document.nullable Document.asNatural

/-- Reads a setting; the value under any other key only has to be JSON. -/
def set (d : Draft) (key : String) (doc : Document) : Except ReadError Draft :=
  match key with
  | "contact_points" => do
    .ok { d with contactPoints := ← once d.contactPoints key doc Document.asTexts }
  | "local_datacenter" => do
    .ok { d with localDatacenter := ← once d.localDatacenter key doc optionalText }
  | "keyspace" => do .ok { d with keyspace := ← once d.keyspace key doc optionalText }
  | "username" => do .ok { d with username := ← once d.username key doc optionalText }
  | "password" => do .ok { d with password := ← once d.password key doc optionalText }
  | "connect_timeout_secs" => do
    let secs ← once d.connectTimeoutSecs key doc optionalNatural
    .ok { d with connectTimeoutSecs := secs }
  | "request_timeout_secs" => do
    let secs ← once d.requestTimeoutSecs key doc optionalNatural
    .ok { d with requestTimeoutSecs := secs }
  | _ => if doc.isWhole then .ok d else .error .malformed

def ofMembers (d : Draft) : List (Document × Document) → Except ReadError Draft
  | [] => .ok d
  | (.str (some key), doc) :: rest => do ofMembers (← d.set key doc) rest
  | _ :: _ => .error .malformed

def ofItems (d : Draft) : List String → List Document → Except ReadError Draft
  | _, [] => .ok d
  | [], _ :: _ => .error .malformed
  | key :: keys, doc :: rest => do ofItems (← d.set key doc) keys rest

def finish (d : Draft) (missing : ReadError) : Except ReadError Config :=
  match d.contactPoints with
  | none => .error missing
  | some contactPoints => .ok {
      contactPoints
      localDatacenter := d.localDatacenter.join
      keyspace := d.keyspace.join
      username := d.username.join
      password := d.password.join
      connectTimeoutSecs := d.connectTimeoutSecs.join
      requestTimeoutSecs := d.requestTimeoutSecs.join }

end Draft

def ofDocument : Document → Except ReadError Config
  | .obj members => do
    (← Draft.ofMembers {} members).finish (.shape (.missingField "contact_points"))
  | .arr items => do
    (← Draft.ofItems {} keys items).finish
      (.shape (.invalidLength 0 "struct ConnectorConfig with 7 elements"))
  | doc => doc.mismatch "struct ConnectorConfig"

/-- Reads a configuration from JSON text, without asking whether it can be used. -/
def read (text : String) : Except ReadError Config :=
  let (doc, complete) := Document.ofText text
  match ofDocument doc with
  | .error e => .error e
  | .ok config => if complete then .ok config else .error .malformed

def toJsonText (c : Config) : String := (Json.obj c.settings).text

def ofJsonText (text : String) : Except CqlError Config :=
  match read text with
  | .error e => .error (.json e)
  | .ok config => config.validated

end Config

end CqlClient
