import CqlClient.Cql.Type
import CqlClient.Json.Shape

/-!
# Errors

`CqlError` has five kinds. A configuration error is a request that the client itself refuses; a
render error is a query that could not be compiled; a transport error comes from the session. The
wording of every cause is in `message`.
-/

namespace CqlClient

structure BindFault where
  value : Json
  type : CqlType

def BindFault.message (e : BindFault) : String :=
  "Cannot bind " ++ e.value.text ++ " as " ++ e.type.describe

inductive ConfigurationFault where
  | noContactPoint
  | blankContactPoint (point : String)
  | emptyKeyspace
  | unpairedCredentials
  | malformedYaml
  | notAName
  | invalidName (name : String)
  | unsupportedType (name : String)
  | noFields (table : String)
  | noKeyspace (table : String)
  | addedPrimaryKey (field table : String)
  | parameterCount (expected got : Nat)
  | unbindable (e : BindFault)
  | unbindableParameter (name : String) (e : BindFault)
  | other (detail : String)

def ConfigurationFault.message : ConfigurationFault → String
  | .noContactPoint => "At least one contact point is required"
  | .blankContactPoint point => "Invalid contact point '" ++ point ++ "'"
  | .emptyKeyspace => "Keyspace name cannot be empty"
  | .unpairedCredentials => "Username and password must be set together"
  | .malformedYaml => "Failed to parse YAML"
  | .notAName => "Invalid name expression. Expected string."
  | .invalidName name => "Invalid database object name '" ++ name ++ "'"
  | .unsupportedType name => "Type " ++ name ++ " is not supported by Cassandra CQL formatter."
  | .noFields table => "Table '" ++ table ++ "' must define at least one field"
  | .noKeyspace table =>
    "Table '" ++ table ++ "' has no keyspace. Configure a keyspace or use a keyspace handle."
  | .addedPrimaryKey field table =>
    "Cannot add primary key column '" ++ field ++ "' to existing table '" ++ table ++ "'"
  | .parameterCount expected got =>
    "Statement expects " ++ toString expected ++ " parameter(s), got " ++ toString got
  | .unbindable e => e.message
  | .unbindableParameter name e => "Parameter '" ++ name ++ "': " ++ e.message
  | .other detail => detail

inductive RenderFault where
  | noOperands (operator : String)
  | noAlternatives
  | invalidFunction (name : String)
  | noValues (entity : String)
  | noAssignments (entity : String)
  | configuration (fault : ConfigurationFault)
  | json (e : Json.ReadError)
  | other (detail : String)

def RenderFault.message : RenderFault → String
  | .noOperands operator => operator ++ " expression has no operands"
  | .noAlternatives => "IN expression requires at least one value"
  | .invalidFunction name => "Invalid function name '" ++ name ++ "'"
  | .noValues entity => "Insert into '" ++ entity ++ "' has no values"
  | .noAssignments entity => "Update of '" ++ entity ++ "' has no assignments"
  | .configuration fault => fault.message
  | .json e => e.message
  | .other detail => detail

inductive CqlError where
  | configuration (fault : ConfigurationFault)
  | render (fault : RenderFault)
  | transport (detail : String)
  | json (e : Json.ReadError)
  | internal (detail : String)

namespace CqlError

def message : CqlError → String
  | .configuration fault => "Configuration error: " ++ fault.message
  | .render fault => "Render error: " ++ fault.message
  | .transport detail => "Transport error: " ++ detail
  | .json e => "JSON error: " ++ e.message
  | .internal detail => "Internal error: " ++ detail

def isTransport : CqlError → Bool
  | .transport _ => true
  | _ => false

def isConfiguration : CqlError → Bool
  | .configuration _ => true
  | _ => false

/-- A formatter's failure, seen as a failure to compile a statement. -/
def asRender : CqlError → CqlError
  | .configuration fault => .render (.configuration fault)
  | .json e => .render (.json e)
  | e => e

end CqlError

end CqlClient
