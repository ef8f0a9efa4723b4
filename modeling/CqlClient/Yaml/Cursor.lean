import CqlClient.Text.Range

/-!
# Places in a YAML text

Indentation makes the place of a token part of its meaning: a cursor is the rest of a text with the
line and the column at which it starts.
-/

namespace CqlClient.Yaml

def isAllowed (c : Char) : Bool :=
  c = '\t' || c = '\n' || c = '\r' || Text.inRanges
    [(0x20, 0x7e), (0x85, 0x85), (0xa0, 0xd7ff), (0xe000, 0xfffd), (0x10000, 0x10ffff)] c.toNat

/-- Writes every end of a line that is not a separator of its own as a line feed. -/
def normalizeBreaks : List Char → List Char
  | [] => []
  | '\r' :: '\n' :: rest => '\n' :: normalizeBreaks rest
  | c :: rest => (if c = '\r' ∨ c = '\x85' then '\n' else c) :: normalizeBreaks rest

def isBlank (c : Char) : Bool := c = ' ' || c = '\t'

def isBreak (c : Char) : Bool := c = '\n' || c = '\u2028' || c = '\u2029'

def isSpace (c : Char) : Bool := isBlank c || isBreak c

def endsWord : List Char → Bool
  | [] => true
  | c :: _ => isSpace c

structure Cursor where
  rest : List Char
  line : Nat := 0
  column : Nat := 0
  index : Nat := 0

namespace Cursor

def next (c : Cursor) : Cursor :=
  match c.rest with
  | [] => c
  | ch :: rest =>
    if isBreak ch then { rest, line := c.line + 1, column := 0, index := c.index + 1 }
    else { rest, line := c.line, column := c.column + 1, index := c.index + 1 }

def skip (c : Cursor) : Nat → Cursor
  | 0 => c
  | n + 1 => c.next.skip n

theorem rest_next (c : Cursor) : c.next.rest = c.rest.tail := by
  unfold next
  split
  · simp [*]
  · split <;> simp [*]

theorem rest_skip (c : Cursor) (n : Nat) : (c.skip n).rest = c.rest.drop n := by
  induction n generalizing c with
  | zero => rfl
  | succ n ih => simp [skip, ih, rest_next]

theorem length_skip_le (c : Cursor) (n : Nat) : (c.skip n).rest.length ≤ c.rest.length := by
  simp [rest_skip]

theorem length_skip_lt {c : Cursor} {ch : Char} {rest : List Char} (h : c.rest = ch :: rest)
    (n : Nat) : (c.skip (n + 1)).rest.length < c.rest.length := by
  simp only [rest_skip, h, List.length_drop, List.length_cons]
  omega

/-- A line starts here that divides documents: `---` or `...` as a word. -/
def atMarker (c : Cursor) : Bool :=
  c.column = 0 &&
    match c.rest with
    | '-' :: '-' :: '-' :: rest => endsWord rest
    | '.' :: '.' :: '.' :: rest => endsWord rest
    | _ => false

/-- The start of the next line, if nothing but blanks and a comment is left of this one. -/
def endLine? (c : Cursor) : Option Cursor :=
  let c := c.skip (c.rest.takeWhile isBlank).length
  let comment := if c.rest.head? = some '#' then c.rest.takeWhile fun d => !isBreak d else []
  let c := c.skip comment.length
  match c.rest with
  | [] => some c
  | ch :: _ => if isBreak ch then some c.next else none

end Cursor

end CqlClient.Yaml
