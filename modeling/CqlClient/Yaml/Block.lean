import CqlClient.Yaml.Scalar

/-!
# YAML block scalars

A block scalar is a run of lines that are indented deeper than the block around them. A literal one
keeps the ends of its lines. In a folded one they are read as in a plain scalar, except beside a
line that starts with a blank. The header says what becomes of the last line's end.
-/

namespace CqlClient.Yaml

/-! ## Headers -/

/-- What is kept after the last line: nothing, the end of that line, or also the empty lines that
follow. -/
inductive Chomping where
  | strip
  | clip
  | keep

structure BlockHeader where
  chomping : Chomping := .clip
  indent : Option Nat := none

def Chomping.ofSign? (c : Char) : Option Chomping :=
  if c = '-' then some .strip else if c = '+' then some .keep else none

def indentDigit? (c : Char) : Option Nat :=
  if '1' ≤ c ∧ c ≤ '9' then some (c.toNat - '0'.toNat) else none

/-- The header at the front of a text, and its length: a sign and a digit in either order, both
optional. -/
def BlockHeader.read (cs : List Char) : BlockHeader × Nat :=
  match cs.head? >>= Chomping.ofSign?, cs.head? >>= indentDigit? with
  | some chomping, _ =>
    match cs.tail.head? >>= indentDigit? with
    | some k => ({ chomping, indent := some k }, 2)
    | none => ({ chomping }, 1)
  | none, some k =>
    match cs.tail.head? >>= Chomping.ofSign? with
    | some chomping => ({ chomping, indent := some k }, 2)
    | none => ({ indent := some k }, 1)
  | none, none => ({}, 0)

/-! ## Lines -/

/-- Where a line starts after some empty ones: their breaks, the widest indentation of all these
lines, and the place behind the indentation. -/
structure Margin where
  breaks : List Char := []
  width : Nat
  cursor : Cursor

/-- Passes over empty lines and over the indentation of the line after them, which takes no more
columns than given. A tab is no indentation. -/
def scanMargin? (indent : Option Nat) (c : Cursor) : Option Margin :=
  let spaces := (c.rest.takeWhile (· = ' ')).length
  let width := min spaces (indent.getD spaces)
  let after := c.skip width
  match _h : after.rest with
  | [] => some { width, cursor := after }
  | ch :: _ =>
    if ch = '\t' ∧ indent.all (width < ·) then none
    else if isBreak ch then
      (scanMargin? indent (after.skip (0 + 1))).map fun m =>
        { m with breaks := ch :: m.breaks, width := max width m.width }
    else some { width, cursor := after }
termination_by c.rest.length
decreasing_by
  have := Cursor.length_skip_lt _h 0
  simp only [after, Cursor.rest_skip, List.length_drop] at this ⊢
  omega

theorem length_scanMargin?_le {indent : Option Nat} {c : Cursor} {m : Margin}
    (h : scanMargin? indent c = some m) : m.cursor.rest.length ≤ c.rest.length := by
  fun_induction scanMargin? indent c generalizing m with
  | case1 => exact Option.some.inj h ▸ Cursor.length_skip_le _ _
  | case2 => simp at h
  | case3 =>
    rename_i ih
    obtain ⟨m', hm', rfl⟩ := Option.map_eq_some_iff.1 h
    have hrest := ih hm'
    exact Nat.le_trans hrest <|
      Nat.le_trans (Cursor.length_skip_le _ _) (Cursor.length_skip_le _ _)
  | case4 => exact Option.some.inj h ▸ Cursor.length_skip_le _ _

/-- A line of a block scalar: its text, the break that ends it, unless the whole text ends there,
and the breaks of the empty lines after it. -/
structure BlockLine where
  text : List Char
  ending : List Char
  empties : List Char

def scanLines? (indent : Nat) (c : Cursor) : Option (List BlockLine × Cursor) :=
  match _h : c.rest with
  | [] => some ([], c)
  | _ :: _ =>
    if c.column ≠ indent then some ([], c)
    else
      let text := c.rest.takeWhile fun d => !isBreak d
      match _hm : scanMargin? (some indent) (c.skip (text.length + 1)) with
      | none => none
      | some margin =>
        (scanLines? indent margin.cursor).map fun (lines, after) =>
          let ending := (c.rest.drop text.length).take 1
          ({ text, ending, empties := margin.breaks } :: lines, after)
termination_by c.rest.length
decreasing_by exact Nat.lt_of_le_of_lt (length_scanMargin?_le _hm) (Cursor.length_skip_lt _h _)

/-! ## Text -/

def BlockLine.isIndented (l : BlockLine) : Bool := l.text.head?.any isBlank

def BlockLine.joint (folded : Bool) (l next : BlockLine) : List Char :=
  let breaks := l.ending ++ l.empties
  if folded && !l.isIndented && !next.isIndented then foldSpaces breaks else breaks

def Chomping.kept (chomping : Chomping) (ending empties : List Char) : List Char :=
  match chomping with
  | .strip => []
  | .clip => ending
  | .keep => ending ++ empties

def joinLines (folded : Bool) (chomping : Chomping) : List BlockLine → List Char
  | [] => []
  | [l] => l.text ++ chomping.kept l.ending l.empties
  | l :: next :: rest =>
    l.text ++ l.joint folded next ++ joinLines folded chomping (next :: rest)

/-- The text of a block scalar that has empty lines with the given breaks in front. -/
def blockText (folded : Bool) (chomping : Chomping) (empties : List Char)
    (lines : List BlockLine) : List Char :=
  if lines.isEmpty then chomping.kept [] empties
  else empties ++ joinLines folded chomping lines

/-- Reads a block scalar behind its indicator; `parent` is the column of the block around it.
Without a digit in the header the indentation is that of the first line, or of a wider empty line
before it. -/
def scanBlock? (folded : Bool) (parent : Option Nat) (c : Cursor) : Option ScannedScalar := do
  let (header, length) := BlockHeader.read c.rest
  let start ← (c.skip length).endLine?
  let given := header.indent.map (· + parent.getD 0)
  let margin ← scanMargin? given start
  let least := max 1 ((parent.map (· + 1)).getD 0)
  let (lines, cursor) ← scanLines? (given.getD (max least margin.width)) margin.cursor
  some { text := blockText folded header.chomping margin.breaks lines, cursor, newLine := true }

end CqlClient.Yaml
