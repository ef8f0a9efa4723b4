import CqlClient.Json.Text

/-!
# Literals

JSON values as literals of a statement. A text stands in single quotes with its own quotes doubled;
an object is a text that holds its compact JSON.
-/

namespace CqlClient

def quoteText (cs : List Char) : List Char :=
  '\'' :: (cs.flatMap (fun c => if c = '\'' then ['\'', '\''] else [c]) ++ ['\''])

mutual

def literalChars : Json → List Char
  | .null => ['N', 'U', 'L', 'L']
  | .bool true => ['t', 'r', 'u', 'e']
  | .bool false => ['f', 'a', 'l', 's', 'e']
  | .int n => Text.intChars n
  | .float x => (Json.floatText x).toList
  | .str s => quoteText s.toList
  | .arr items => '(' :: (literalItems items ++ [')'])
  | .obj members => quoteText (Json.obj members).chars

def literalItems : List Json → List Char
  | [] => []
  | [v] => literalChars v
  | v :: w :: rest => literalChars v ++ ',' :: ' ' :: literalItems (w :: rest)

end

def literal (v : Json) : String := String.ofList (literalChars v)

/-! ## Values in definitions -/

def escapeApostrophes (cs : List Char) : List Char :=
  cs.flatMap fun c => if c = '\'' then ['\\', '\''] else [c]

/-- Turns a double quote into a single one where a character other than a backslash stands before it
that does not follow a quote just turned. -/
def requote : List Char → List Char
  | [] => []
  | [c] => [c]
  | c :: d :: rest =>
    if c ≠ '\\' ∧ d = '"' then c :: '\'' :: requote rest else c :: requote (d :: rest)

def unescapeQuotes : List Char → List Char
  | [] => []
  | [c] => [c]
  | c :: d :: rest =>
    if c = '\\' ∧ d = '"' then '"' :: unescapeQuotes rest else c :: unescapeQuotes (d :: rest)

/-- A value as a literal of a definition: its JSON text with texts in single quotes. -/
def definitionLiteral (v : Json) : String :=
  String.ofList (unescapeQuotes (requote (escapeApostrophes v.chars)))

end CqlClient
