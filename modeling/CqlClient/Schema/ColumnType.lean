import CqlClient.Text.Digits

/-!
# Column types

The table that maps neutral type names to CQL column types, some of which take a size or a size and
a scale.
-/

namespace CqlClient

inductive TypeTemplate where
  | fixed (text : String)
  | sized (base : String)
  | scaled (base : String)
  deriving DecidableEq

namespace TypeTemplate

/-- The neutral type names with their templates; the first entry of a name counts. -/
def table : List (String × TypeTemplate) := [
  ("Boolean", .fixed "BOOLEAN"),
  ("Byte", .fixed "BLOB(1)"),
  ("Number", .fixed "FLOAT"),
  ("Number", .fixed "FLOAT"),
  ("Counter", .fixed "COUNTER"),
  ("Currency", .fixed "DECIMAL(19,4)"),
  ("Decimal", .scaled "DECIMAL"),
  ("Date", .fixed "DATE"),
  ("DateTime", .fixed "TIMESTAMP"),
  ("Time", .fixed "TIME"),
  ("Long", .fixed "BIGINT"),
  ("Duration", .fixed "DURATION"),
  ("Integer", .fixed "INT"),
  ("Url", .sized "TEXT"),
  ("Text", .sized "TEXT"),
  ("Note", .sized "TEXT"),
  ("Image", .fixed "BLOB"),
  ("Binary", .fixed "BLOB"),
  ("Guid", .fixed "UUID"),
  ("Short", .fixed "SMALLINT")]

def find? (name : String) : Option TypeTemplate := table.lookup name

def names : List String := (table.map Prod.fst).eraseDups

/-- The template with question marks for what is left open. -/
def text : TypeTemplate → String
  | .fixed text => text
  | .sized base => base ++ "(?)"
  | .scaled base => base ++ "(?,?)"

def validSize? (size : Option Int) : Option Int := size.filter (0 < ·)

def validScale? (scale : Option Int) : Option Int := scale.filter (0 ≤ ·)

/-- The column type; what is left open is filled in, or dropped with its parentheses. -/
def render (t : TypeTemplate) (size scale : Option Int) : String :=
  match t with
  | .fixed text => text
  | .sized base =>
    match validSize? size with
    | some n => base ++ "(" ++ Text.intText n ++ ")"
    | none => base
  | .scaled base =>
    match validSize? size, validScale? scale with
    | some n, some m => base ++ "(" ++ Text.intText n ++ "," ++ Text.intText m ++ ")"
    | _, _ => base

end TypeTemplate

end CqlClient
