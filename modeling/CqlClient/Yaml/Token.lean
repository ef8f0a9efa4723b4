import CqlClient.Yaml.Block
import CqlClient.Yaml.Tag

/-!
# YAML tokens

A YAML text as the sequence of its tokens. Indentation becomes tokens of its own: a deeper column
opens a block collection and a shallower one closes it. Nothing announces the first key of a block
mapping before the colon after it, so every place where a key may have started is kept until its
line ends.

Names are gone from the tokens: an anchor is a number, a reference has the number of the anchor that
it names, and a tag is in full.
-/

namespace CqlClient.Yaml

inductive Token where
  | openSequence
  | openMapping
  | closeBlock
  | dash
  | key
  | value
  | openBracket
  | closeBracket
  | openBrace
  | closeBrace
  | comma
  | scalar (style : ScalarStyle) (text : String)
  | anchor (number : Nat)
  | reference (number : Nat)
  | tag (name : String)
  | directive
  | documentStart
  | documentEnd
  deriving DecidableEq

/-- A place where a mapping key may have started. A required one is the key of a block mapping that
is already open, as its column says. -/
structure KeyPlace where
  tokensBefore : Nat
  line : Nat
  index : Nat
  column : Nat
  required : Bool

/-- A text that is being read: the tokens found, the latest first; the columns of the open block
collections, the innermost first; the place where a key may have started in the innermost flow
collection and in those around it; whether a key may start here; the numbers of the anchors; whether
the version of the language is declared; and what the declared handles stand for. -/
structure Scanner where
  cursor : Cursor
  found : List Token := []
  indents : List Nat := []
  keyPlace : Option KeyPlace := none
  outerKeyPlaces : List (Option KeyPlace) := []
  keyAllowed : Bool := true
  anchors : List (String × Nat) := []
  versioned : Bool := false
  handles : List (String × String) := []

namespace Scanner

def inFlow (s : Scanner) : Bool := !s.outerKeyPlaces.isEmpty

def emit (s : Scanner) (t : Token) : Scanner := { s with found := t :: s.found }

def insertAfter (s : Scanner) (n : Nat) (t : Token) : Scanner :=
  let later := s.found.length - n
  { s with found := s.found.take later ++ t :: s.found.drop later }

def skip (s : Scanner) (n : Nat) : Scanner := { s with cursor := s.cursor.skip n }

/-! ## Indentation -/

def closeBlocks (s : Scanner) (keep : Nat → Bool) : Scanner :=
  let closed := s.indents.takeWhile fun column => !keep column
  { s with
    indents := s.indents.drop closed.length
    found := closed.map (fun _ => .closeBlock) ++ s.found }

/-- Opens a block collection at a column right of the innermost one, before all but the first `n`
tokens. -/
def openBlock (s : Scanner) (column n : Nat) (t : Token) : Scanner :=
  if s.inFlow || s.indents.head?.any (column ≤ ·) then s
  else { s with indents := column :: s.indents }.insertAfter n t

/-! ## Keys -/

/-- A key place that can no longer be completed: its line has ended, or lies too far back. -/
def isStale (s : Scanner) (k : KeyPlace) : Bool :=
  k.line < s.cursor.line || k.index + 1024 < s.cursor.index

def giveUp? (k : Option KeyPlace) : Option (Option KeyPlace) :=
  if k.any (·.required) then none else some none

def refresh? (s : Scanner) (k : Option KeyPlace) : Option (Option KeyPlace) :=
  if k.any s.isStale then giveUp? k else some k

def expireKeys? (s : Scanner) : Option Scanner := do
  let keyPlace ← s.refresh? s.keyPlace
  let outerKeyPlaces ← s.outerKeyPlaces.mapM s.refresh?
  some { s with keyPlace, outerKeyPlaces }

def dropKey? (s : Scanner) : Option Scanner := do
  some { s with keyPlace := ← giveUp? s.keyPlace }

def markKey? (s : Scanner) : Option Scanner :=
  if !s.keyAllowed then some s
  else do
    let s ← s.dropKey?
    some { s with keyPlace := some {
      tokensBefore := s.found.length
      line := s.cursor.line
      index := s.cursor.index
      column := s.cursor.column
      required := !s.inFlow && s.indents.head? = some s.cursor.column } }

/-! ## Tokens -/

def openFlow? (s : Scanner) (t : Token) : Option Scanner := do
  let s ← s.markKey?
  let outerKeyPlaces := s.keyPlace :: s.outerKeyPlaces
  some ({ s with keyPlace := none, outerKeyPlaces, keyAllowed := true }.emit t |>.skip 1)

def closeFlow? (s : Scanner) (t : Token) : Option Scanner := do
  let s ← s.dropKey?
  let s := match s.outerKeyPlaces with
    | [] => s
    | keyPlace :: outerKeyPlaces => { s with keyPlace, outerKeyPlaces }
  some ({ s with keyAllowed := false }.emit t |>.skip 1)

def comma? (s : Scanner) : Option Scanner := do
  let s ← s.dropKey?
  some ({ s with keyAllowed := true }.emit .comma |>.skip 1)

/-- Opens a block collection here for a dash, a question mark or a colon without a key before it. -/
def openHere? (s : Scanner) (t : Token) : Option Scanner :=
  if s.inFlow then some s
  else if s.keyAllowed then some (s.openBlock s.cursor.column s.found.length t)
  else none

def dash? (s : Scanner) : Option Scanner := do
  let s ← (← s.openHere? .openSequence).dropKey?
  some ({ s with keyAllowed := true }.emit .dash |>.skip 1)

def question? (s : Scanner) : Option Scanner := do
  let s ← (← s.openHere? .openMapping).dropKey?
  some ({ s with keyAllowed := !s.inFlow }.emit .key |>.skip 1)

def colon? (s : Scanner) : Option Scanner :=
  match s.keyPlace with
  | some k =>
    let s := (s.insertAfter k.tokensBefore .key).openBlock k.column k.tokensBefore .openMapping
    some ({ s with keyPlace := none, keyAllowed := false }.emit .value |>.skip 1)
  | none => do
    let s ← s.openHere? .openMapping
    some ({ s with keyAllowed := !s.inFlow }.emit .value |>.skip 1)

def marker? (s : Scanner) (t : Token) : Option Scanner := do
  let s ← (if s.inFlow then s else s.closeBlocks fun _ => false).dropKey?
  some ({ s with keyAllowed := false }.emit t |>.skip 3)

/-- Takes in a directive. The version is declared once, as 1.1 or 1.2, and so is each handle. -/
def declare? (s : Scanner) : Directive → Option Scanner
  | .version major minor =>
    if s.versioned || major ≠ 1 || (minor ≠ 1 && minor ≠ 2) then none
    else some { s with versioned := true }
  | .handle name stem =>
    if (s.handles.lookup name).isSome then none
    else some { s with handles := (name, stem) :: s.handles }

def directive? (s : Scanner) (rest : List Char) : Option Scanner := do
  let s ← (if s.inFlow then s else s.closeBlocks fun _ => false).dropKey?
  let (directive, n) ← Directive.read? rest
  let s ← s.declare? directive
  let cursor ← (s.cursor.skip (n + 1)).endLine?
  some ({ s with cursor, keyAllowed := false }.emit .directive)

/-! ## Nodes -/

def anchorName? (cs : List Char) : Option (List Char) :=
  let name := cs.takeWhile isNameChar
  let after := cs.drop name.length
  if name ≠ [] ∧ (endsWord after ∨ after.head?.any "?:,]\x7d%@`".toList.contains) then some name
  else none

/-- Reads an anchor. Its number is how many names there have been; a name that comes again moves to
the new anchor. -/
def anchor? (s : Scanner) (rest : List Char) : Option Scanner := do
  let s ← s.markKey?
  let name ← anchorName? rest
  let number := s.anchors.length
  let anchors := (String.ofList name, number) :: s.anchors.filter (·.1 ≠ String.ofList name)
  some ({ s with anchors, keyAllowed := false }.emit (.anchor number) |>.skip (name.length + 1))

def reference? (s : Scanner) (rest : List Char) : Option Scanner := do
  let s ← s.markKey?
  let name ← anchorName? rest
  let number ← s.anchors.lookup (String.ofList name)
  some ({ s with keyAllowed := false }.emit (.reference number) |>.skip (name.length + 1))

def tag? (s : Scanner) : Option Scanner := do
  let s ← s.markKey?
  let (tag, n) ← Tag.read? s.cursor.rest
  let after := s.cursor.rest.drop n
  if endsWord after ∨ (s.inFlow ∧ after.head? = some ',') then
    some ({ s with keyAllowed := false }.emit (.tag (← tag.resolve? s.handles)) |>.skip n)
  else none

def accept (s : Scanner) (style : ScalarStyle) (scalar : ScannedScalar) : Scanner :=
  { s with cursor := scalar.cursor, keyAllowed := scalar.newLine }.emit
    (.scalar style (String.ofList scalar.text))

def block? (s : Scanner) (style : ScalarStyle) : Option Scanner := do
  let s ← s.dropKey?
  some (s.accept style (← scanBlock? (style = .folded) s.indents.head? (s.cursor.skip 1)))

def quoted? (s : Scanner) (quote : Char) : Option Scanner := do
  let s ← s.markKey?
  some (s.accept .quoted (← scanQuoted? quote (s.cursor.skip 1)))

/-- Reads a plain scalar, whose later lines are indented deeper than the block around it. -/
def plain? (s : Scanner) : Option Scanner := do
  let s ← s.markKey?
  let indent := (s.indents.head?.map (· + 1)).getD 0
  some (s.accept .plain (← scanPlain? s.inFlow indent [] s.cursor))

/-- No plain scalar starts with these, except that a dash, a question mark or a colon may be the
first character of a word. -/
def isIndicator (c : Char) : Bool := ",[]\x7b\x7d#&*!|>'\"%@`".toList.contains c

def token? (s : Scanner) (c : Char) (rest : List Char) : Option Scanner :=
  if s.cursor.column = 0 ∧ c = '%' then s.directive? rest
  else if s.cursor.atMarker then s.marker? (if c = '-' then .documentStart else .documentEnd)
  else if c = '[' then s.openFlow? .openBracket
  else if c = '\x7b' then s.openFlow? .openBrace
  else if c = ']' then s.closeFlow? .closeBracket
  else if c = '\x7d' then s.closeFlow? .closeBrace
  else if c = ',' then s.comma?
  else if c = '-' ∧ endsWord rest then s.dash?
  else if c = '?' ∧ (s.inFlow ∨ endsWord rest) then s.question?
  else if c = ':' ∧ (s.inFlow ∨ endsWord rest) then s.colon?
  else if c = '*' then s.reference? rest
  else if c = '&' then s.anchor? rest
  else if c = '!' then s.tag?
  else if c = '|' ∧ !s.inFlow then s.block? .literal
  else if c = '>' ∧ !s.inFlow then s.block? .folded
  else if c = '\'' ∨ c = '"' then s.quoted? c
  else if isSpace c ∨ isIndicator c then none
  else s.plain?

/-! ## Between tokens -/

/-- Passes over blanks, comments and line ends. A tab is no indentation, and may not stand where a
key may start. After the end of a line a block key may start. -/
def skipSpace (inFlow : Bool) (keyAllowed : Bool) (c : Cursor) : Cursor × Bool :=
  match _h : c.rest with
  | [] => (c, keyAllowed)
  | ch :: rest =>
    if ch = ' ' ∨ (ch = '\t' ∧ (inFlow ∨ !keyAllowed)) ∨ (ch = '\ufeff' ∧ c.column = 0) then
      skipSpace inFlow keyAllowed (c.skip (0 + 1))
    else if ch = '#' then
      skipSpace inFlow keyAllowed (c.skip ((rest.takeWhile fun d => !isBreak d).length + 1))
    else if isBreak ch then skipSpace inFlow (keyAllowed || !inFlow) (c.skip (0 + 1))
    else (c, keyAllowed)
termination_by c.rest.length
decreasing_by
  all_goals exact Cursor.length_skip_lt _h _

def advance? (s : Scanner) : Option Scanner := do
  let (cursor, keyAllowed) := skipSpace s.inFlow s.keyAllowed s.cursor
  let s ← { s with cursor, keyAllowed }.expireKeys?
  some (if s.inFlow then s else s.closeBlocks (· ≤ cursor.column))

/-- Reads up to the end of the text; every token takes a unit of fuel. -/
def run? : Nat → Scanner → Option (List Token)
  | 0, _ => none
  | fuel + 1, s => do
    let s ← s.advance?
    match s.cursor.rest with
    | [] =>
      let s ← (if s.inFlow then s else s.closeBlocks fun _ => false).dropKey?
      some s.found.reverse
    | c :: rest => run? fuel (← s.token? c rest)

end Scanner

def tokens? (text : String) : Option (List Token) :=
  if text.toList.all isAllowed then
    let cs := normalizeBreaks text.toList
    let cs := if cs.head? = some '\ufeff' then cs.tail else cs
    Scanner.run? (cs.length + 1) { cursor := { rest := cs } }
  else none

end CqlClient.Yaml
