import CqlClient.Format.Literal
import CqlClient.Name
import CqlClient.Query.Basic

/-!
# Formatters and expressions

A formatter turns queries into text. The neutral grammar keeps qualified names and entity aliases;
CQL has neither, so its names are reduced to their last part.
-/

namespace CqlClient

inductive Grammar where
  | neutral
  | cql
  deriving DecidableEq

structure Formatter where
  grammar : Grammar := .cql
  /-- The form of an identifier, which stands in it for `$1`. -/
  nameFormat : String := "\"$1\""
  forceAlias : Bool := false
  validator : NameValidator := .standard

namespace Formatter

def neutral : Formatter := { grammar := .neutral }

def cql : Formatter := {}

def fillIn (part : List Char) : List Char → List Char
  | [] => []
  | [c] => [c]
  | c :: d :: rest =>
    if c = '$' ∧ d = '1' then part ++ fillIn part rest else c :: fillIn part (d :: rest)

def quoteIdentifier (f : Formatter) (part : String) : String :=
  String.ofList (fillIn part.toList f.nameFormat.toList)

/-- A name quoted part by part; the star stands for itself. -/
def quoteName (f : Formatter) (name : String) : Except CqlError String :=
  if name = "*" then .ok name
  else if f.validator.accepts name true then
    .ok (".".intercalate ((Name.segments name).map f.quoteIdentifier))
  else .error (.configuration (.invalidName name))

/-- A name as the grammar writes it: in CQL a qualified name is just its last part. -/
def escapeName (f : Formatter) (name : String) : Except CqlError String :=
  match f.grammar with
  | .neutral => f.quoteName name
  | .cql => f.quoteName (if Name.isQualified name then Name.member name else name)

def connect (operator : String) (items : List String) : Except CqlError String :=
  if items.isEmpty then .error (.render (.noOperands operator))
  else .ok ((" " ++ operator ++ " ").intercalate items)

def commaSeparated (items : List String) : String := ", ".intercalate items

def parenthesized (s : String) : String := "(" ++ s ++ ")"

mutual

def formatExpr (f : Formatter) : Expr → Except CqlError String
  | .name n => f.escapeName n
  | .literal v => .ok (literal v)
  | .param => .ok "?"
  | .compare op left right => do
    let left ← formatExpr f left
    let right ← formatExpr f right
    .ok (left ++ " " ++ op.sign ++ " " ++ right)
  | .and items => do
    let items ← formatExprs f items
    let text ← connect "AND" items
    .ok (parenthesized text)
  | .or items => do
    let items ← formatExprs f items
    let text ← connect "OR" items
    .ok (parenthesized text)
  | .oneOf subject values =>
    if values.isEmpty then .error (.render .noAlternatives)
    else do
      let subject ← formatExpr f subject
      let values ← formatExprs f values
      .ok (subject ++ " IN " ++ parenthesized (commaSeparated values))
  | .call function args =>
    if f.validator.accepts function false then do
      let args ← formatExprs f args
      .ok (function ++ parenthesized (commaSeparated args))
    else .error (.render (.invalidFunction function))

def formatExprs (f : Formatter) : List Expr → Except CqlError (List String)
  | [] => .ok []
  | e :: rest => do
    let text ← formatExpr f e
    let texts ← formatExprs f rest
    .ok (text :: texts)

end

/-- A filter: an expression, but without parentheses around an outermost connective. -/
def formatFilter (f : Formatter) : Expr → Except CqlError String
  | .and items => do connect "AND" (← f.formatExprs items)
  | .or items => do connect "OR" (← f.formatExprs items)
  | e => f.formatExpr e

end Formatter

end CqlClient
