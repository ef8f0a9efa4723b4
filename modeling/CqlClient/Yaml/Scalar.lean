import CqlClient.Text.Digits
import CqlClient.Yaml.Cursor

/-!
# YAML scalars

Plain and quoted scalars. Both may run over several lines; a break between two lines is read as a
space, and more breaks as one break less.
-/

namespace CqlClient.Yaml

inductive ScalarStyle where
  | plain
  | quoted
  | literal
  | folded
  deriving DecidableEq

/-! ## Line folding -/

/-- What blanks and breaks between two words stand for. Without a break they stand for themselves.
Blanks beside a break count for nothing; a single line feed is a space, and a line feed before other
breaks is dropped. -/
def foldSpaces (spaces : List Char) : List Char :=
  match spaces.filter isBreak with
  | [] => spaces
  | ['\n'] => [' ']
  | '\n' :: breaks => breaks
  | breaks => breaks

/-- A line after the first one has a tab left of the given column. -/
def hasEarlyTab (indent : Nat) : Option Nat → List Char → Bool
  | _, [] => false
  | column, c :: rest =>
    if isBreak c then hasEarlyTab indent (some 0) rest
    else
      match column with
      | none => hasEarlyTab indent none rest
      | some k => (c = '\t' && k < indent) || hasEarlyTab indent (some (k + 1)) rest

/-! ## Plain scalars -/

def isBracketOrComma (c : Char) : Bool := ",[]\x7b\x7d".toList.contains c

/-- The length of the word that a plain scalar goes on with. A colon at the end of a word ends the
scalar; in a flow collection so does a bracket or a comma, and no colon may stand before one. -/
def wordLength? (inFlow : Bool) : List Char → Option Nat
  | [] => some 0
  | c :: rest =>
    if isSpace c then some 0
    else if inFlow && c = ':' && rest.head?.any (fun d => isBracketOrComma d || d = '?') then none
    else if c = ':' && endsWord rest then some 0
    else if inFlow && isBracketOrComma c then some 0
    else (wordLength? inFlow rest).map (· + 1)

/-- A scalar that has been read: its text, the place after it, and whether that place is on a new
line. -/
structure ScannedScalar where
  text : List Char
  cursor : Cursor
  newLine : Bool := false

def ScannedScalar.prepend (s : ScannedScalar) (cs : List Char) : ScannedScalar :=
  { s with text := cs ++ s.text }

/-- Reads a plain scalar, whose lines have to start at the given column or right of it unless they
are in a flow collection; `between` are the blanks and breaks before this place. -/
def scanPlain? (inFlow : Bool) (indent : Nat) (between : List Char) (c : Cursor) :
    Option ScannedScalar :=
  let done : ScannedScalar := { text := [], cursor := c, newLine := between.any isBreak }
  if c.atMarker || c.rest.head? = some '#' then some done
  else
    match _h : c.rest with
    | [] => some done
    | _ :: _ =>
      match wordLength? inFlow c.rest with
      | none => none
      | some 0 => some done
      | some (n + 1) =>
        let word := foldSpaces between ++ c.rest.take (n + 1)
        let afterWord := c.skip (n + 1)
        let spaces := afterWord.rest.takeWhile isSpace
        let afterSpaces := afterWord.skip spaces.length
        if spaces.isEmpty then some { text := word, cursor := afterWord }
        else if hasEarlyTab indent none spaces then none
        else if !inFlow && afterSpaces.column < indent then
          some { text := word, cursor := afterSpaces, newLine := spaces.any isBreak }
        else (scanPlain? inFlow indent spaces afterSpaces).map (·.prepend word)
termination_by c.rest.length
decreasing_by
  have := Cursor.length_skip_lt _h n
  simp only [Cursor.rest_skip, List.length_drop] at this ⊢
  omega

/-! ## Quoted scalars -/

def escapeLetter? (c : Char) : Option Char :=
  if c = '0' then some '\x00'
  else if c = 'a' then some '\x07'
  else if c = 'b' then some '\x08'
  else if c = 't' ∨ c = '\t' then some '\t'
  else if c = 'n' then some '\n'
  else if c = 'v' then some '\x0b'
  else if c = 'f' then some '\x0c'
  else if c = 'r' then some '\r'
  else if c = 'e' then some '\x1b'
  else if c = ' ' ∨ c = '"' ∨ c = '/' ∨ c = '\\' then some c
  else if c = 'N' then some '\x85'
  else if c = '_' then some '\xa0'
  else if c = 'L' then some '\u2028'
  else if c = 'P' then some '\u2029'
  else none

def escapeDigits? (c : Char) : Option Nat :=
  if c = 'x' then some 2 else if c = 'u' then some 4 else if c = 'U' then some 8 else none

/-- The character of an escape, whose backslash has been read, and how many characters follow its
letter. -/
def escape? : List Char → Option (Char × Nat)
  | [] => none
  | c :: rest =>
    match escapeDigits? c with
    | none => (escapeLetter? c).map (·, 0)
    | some k =>
      if rest.length < k then none
      else
        match Text.natOfHex? (rest.take k) with
        | none => none
        | some n => if h : n.isValidChar then some (Char.ofNatAux n h, k) else none

def scanQuoted? (quote : Char) (c : Cursor) : Option ScannedScalar :=
  if c.atMarker then none
  else
    match _h : c.rest with
    | [] => none
    | ch :: rest =>
      if isSpace ch then
        let spaces := ch :: rest.takeWhile isSpace
        (scanQuoted? quote (c.skip ((rest.takeWhile isSpace).length + 1))).map
          (·.prepend (foldSpaces spaces))
      else if ch = quote then
        if quote = '\'' ∧ rest.head? = some quote then
          (scanQuoted? quote (c.skip (1 + 1))).map (·.prepend [quote])
        else some { text := [], cursor := c.next }
      else if ch = '\\' ∧ quote = '"' then
        if rest.head?.any isBreak then
          let spaces := rest.tail.takeWhile isSpace
          (scanQuoted? quote (c.skip (spaces.length + 1 + 1))).map
            (·.prepend (spaces.filter isBreak))
        else
          match escape? rest with
          | none => none
          | some (e, k) => (scanQuoted? quote (c.skip (k + 1 + 1))).map (·.prepend [e])
      else (scanQuoted? quote (c.skip 1)).map (·.prepend [ch])
termination_by c.rest.length
decreasing_by
  all_goals exact Cursor.length_skip_lt _h _

end CqlClient.Yaml
