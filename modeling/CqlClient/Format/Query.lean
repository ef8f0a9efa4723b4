import CqlClient.Format.Expr
import CqlClient.Text.Blank

/-!
# Compiling queries

Select lists, and the four statements. CQL rejects a column aliased with its own name, so there a
field whose text repeats itself around `AS` is written once.
-/

namespace CqlClient

/-- Where a field stands: in a select list with its alias, or elsewhere without. -/
inductive FieldPlace where
  | selected
  | referenced
  deriving DecidableEq

/--
The longest `a` such that the text is `a`, a blank, `AS`, a blank and `b`, with no line break in `a`
or `b`; given with that `b`.
-/
def splitAtAlias : List Char → Option (List Char × List Char)
  | [] => none
  | c :: rest =>
    let later := if c = '\n' then none else splitAtAlias rest
    match later with
    | some (a, b) => some (c :: a, b)
    | none =>
      match rest with
      | 'A' :: 'S' :: d :: b =>
        if Text.isBlank c && Text.isBlank d && b.all (· ≠ '\n') then some ([], b) else none
      | _ => none

/-- A text of the form `a AS a` is reduced to `a`. -/
def collapseAlias (s : String) : String :=
  match splitAtAlias s.toList with
  | some (a, b) => if a = b then String.ofList a else s
  | none => s

namespace Formatter

def formatAliased (f : Formatter) (field : SelectField) (place : FieldPlace) :
    Except CqlError String := do
  let text ← f.formatExpr field.expr
  match place, field.aliasName, field.expr with
  | .referenced, _, _ => .ok text
  | .selected, some a, _ => do .ok (text ++ " AS " ++ (← f.escapeName a))
  | .selected, none, .name n =>
    if f.forceAlias && n ≠ "*" then do .ok (text ++ " AS " ++ (← f.escapeName (Name.member n)))
    else .ok text
  | .selected, none, _ => .ok text

def formatField (f : Formatter) (field : SelectField) (place : FieldPlace) :
    Except CqlError String :=
  match f.grammar with
  | .neutral => f.formatAliased field place
  | .cql =>
    match field.aliasName, field.expr with
    | none, .name n =>
      if Name.isQualified n then f.escapeName (Name.member n)
      else do .ok (collapseAlias (← f.formatAliased field place))
    | _, _ => do .ok (collapseAlias (← f.formatAliased field place))

def formatEntity (f : Formatter) (e : Entity) : Except CqlError String := do
  let name ← f.escapeName e.name
  match e.aliasName with
  | some a => do .ok (name ++ " AS " ++ (← f.escapeName a))
  | none => .ok name

/-- A select list; without fields it asks for every column. -/
def formatFields (f : Formatter) (fields : List SelectField) : Except CqlError String :=
  if fields.isEmpty then .ok "*"
  else do .ok (commaSeparated (← fields.mapM (f.formatField · .selected)))

def whereClause (f : Formatter) : Option Expr → Except CqlError String
  | none => .ok ""
  | some filter => do .ok (" WHERE " ++ (← f.formatFilter filter))

def formatOrderKey (f : Formatter) (key : OrderKey) : Except CqlError String := do
  let text ← f.formatField { expr := key.expr } .referenced
  .ok (text ++ (if key.descending then " DESC" else " ASC"))

def orderClause (f : Formatter) (keys : List OrderKey) : Except CqlError String :=
  if keys.isEmpty then .ok ""
  else do .ok (" ORDER BY " ++ commaSeparated (← keys.mapM f.formatOrderKey))

def limitClause : Option Nat → String
  | none => ""
  | some n => " LIMIT " ++ toString n

def formatSelect (f : Formatter) (q : SelectQuery) : Except CqlError String := do
  let entity := match f.grammar with
    | .neutral => q.entity
    | .cql => q.entity.unaliased
  let fields ← f.formatFields q.fields
  let entity ← f.formatEntity entity
  let filter ← f.whereClause q.filter
  let order ← f.orderClause q.orderBy
  .ok ("SELECT " ++ fields ++ " FROM " ++ entity ++ filter ++ order ++ limitClause q.limit)

/-- Columns and their values, each column rendered before its value. -/
def formatPairs (f : Formatter) : List (String × Expr) → Except CqlError (List (String × String))
  | [] => .ok []
  | (column, value) :: rest => do
    let column ← f.escapeName column
    let value ← f.formatExpr value
    let pairs ← formatPairs f rest
    .ok ((column, value) :: pairs)

def formatInsert (f : Formatter) (q : InsertQuery) : Except CqlError String :=
  if q.values.isEmpty then .error (.render (.noValues q.entity.name))
  else do
    let pairs ← f.formatPairs q.values
    let entity ← f.escapeName q.entity.name
    .ok ("INSERT INTO " ++ entity ++ parenthesized (commaSeparated (pairs.map Prod.fst)) ++
      " VALUES " ++ parenthesized (commaSeparated (pairs.map Prod.snd)))

def formatUpdate (f : Formatter) (q : UpdateQuery) : Except CqlError String :=
  if q.assignments.isEmpty then .error (.render (.noAssignments q.entity.name))
  else do
    let pairs ← f.formatPairs q.assignments
    let entity ← f.escapeName q.entity.name
    let filter ← f.whereClause q.filter
    .ok ("UPDATE " ++ entity ++ " SET " ++
      commaSeparated (pairs.map fun (column, value) => column ++ " = " ++ value) ++ filter)

def formatDelete (f : Formatter) (q : DeleteQuery) : Except CqlError String := do
  let entity ← f.escapeName q.entity.name
  let filter ← f.whereClause q.filter
  .ok ("DELETE FROM " ++ entity ++ filter)

def format (f : Formatter) : Query → Except CqlError String
  | .select q => f.formatSelect q
  | .insert q => f.formatInsert q
  | .update q => f.formatUpdate q
  | .delete q => f.formatDelete q

def render (f : Formatter) : Statement → Except CqlError String
  | .text cql => .ok cql
  | .query q => f.format q

end Formatter

end CqlClient
