import CqlClient.Config.Basic
import CqlClient.Yaml.Document

/-!
# Configurations in YAML text

A scalar is a text wherever a text is wanted, however it is written and tagged. It is a number only
if it is plain, or literal with the tag of integers. It is null only if it is plain and optional,
and then by its text or by the tag of null.
-/

namespace CqlClient

namespace Yaml

namespace Node

def intTag : String := "tag:yaml.org,2002:int"

def nullTag : String := "tag:yaml.org,2002:null"

def asText? : Node → Option String
  | .scalar _ _ text => some text
  | _ => none

/-- The number that a scalar stands for: after an optional plus sign decimal digits without a
leading zero, or digits of another base behind `0x`, `0o` or `0b`. -/
def naturalOfText? (cs : List Char) : Option Nat :=
  let digits := if cs.head? = some '+' then cs.tail else cs
  match digits with
  | '0' :: 'x' :: rest => Text.natOfBase? 16 rest
  | '0' :: 'o' :: rest => Text.natOfBase? 8 rest
  | '0' :: 'b' :: rest => Text.natOfBase? 2 rest
  | '0' :: _ :: _ => none
  | _ => Text.natOfDigits? digits

def asNatural? : Node → Option Nat
  | .scalar tag style text =>
    if style = .plain ∨ (style = .literal ∧ tag = some intTag) then
      (naturalOfText? text.toList).filter (· < Nat.pow 2 64)
    else none
  | _ => none

def isNullWord (text : String) : Bool := ["~", "null", "Null", "NULL"].contains text

/-- Reads what may be null. The tag of null admits only the words for it; any other tag admits no
null. -/
def nullable? {α : Type} (read : Node → Option α) (node : Node) : Option (Option α) :=
  match node with
  | .scalar none .plain text =>
    if text = "" ∨ isNullWord text then some none else (read node).map some
  | .scalar (some tag) .plain text =>
    if tag ≠ nullTag then (read node).map some
    else if isNullWord text then some none
    else none
  | _ => (read node).map some

end Node

namespace Document

def asTexts? (d : Document) : Node → Option (List String)
  | .sequence items => items.mapM fun item => (d.content item).asText?
  | .scalar _ .plain "" => some []
  | _ => none

def asEntries? (d : Document) : Node → Option (List (String × Node))
  | .mapping entries => entries.mapM fun (k, v) => (d.content k).asText?.map (·, d.content v)
  | _ => none

end Document

end Yaml

namespace Config

open Yaml (Document Node)

/-- The value of a setting, unless it occurs twice; `none` inside if it does not occur. -/
def setting? (entries : List (String × Node)) (key : String) : Option (Option Node) :=
  match entries.filter (·.1 = key) with
  | [] => some none
  | [(_, node)] => some (some node)
  | _ => none

def optionalSetting? {α : Type} (entries : List (String × Node)) (key : String)
    (read : Node → Option α) : Option (Option α) := do
  match ← setting? entries key with
  | none => some none
  | some node => node.nullable? read

def ofDocument? (d : Document) : Option Config := do
  let entries ← d.asEntries? (d.content d.root)
  let contactPoints ← (← setting? entries "contact_points") >>= d.asTexts?
  let localDatacenter ← optionalSetting? entries "local_datacenter" Node.asText?
  let keyspace ← optionalSetting? entries "keyspace" Node.asText?
  let username ← optionalSetting? entries "username" Node.asText?
  let password ← optionalSetting? entries "password" Node.asText?
  let connectTimeoutSecs ← optionalSetting? entries "connect_timeout_secs" Node.asNatural?
  let requestTimeoutSecs ← optionalSetting? entries "request_timeout_secs" Node.asNatural?
  some { contactPoints, localDatacenter, keyspace, username, password, connectTimeoutSecs,
         requestTimeoutSecs }

def ofYamlText (text : String) : Except CqlError Config :=
  match Document.parse? text >>= ofDocument? with
  | none => .error (.configuration .malformedYaml)
  | some config => config.validated

end Config

end CqlClient
