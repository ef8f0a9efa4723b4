import CqlClient.Json.Number

/-!
# JSON tokens

A JSON text as the sequence of its tokens. Where the text stops being one, the sequence ends with
the token `bad`. A string keeps whether it can be decoded: one with an unpaired surrogate escape is
a token, but stands for no text.
-/

namespace CqlClient.Json

inductive Token where
  | openBracket
  | closeBracket
  | openBrace
  | closeBrace
  | comma
  | colon
  | null
  | bool (b : Bool)
  | number (n : NumberText)
  | str (s : Option String)
  | bad

/-- A piece of a string: a character, or a 16-bit code from an escape. -/
inductive StringPiece where
  | char (c : Char)
  | code (n : Nat)

def escapeLetter? (c : Char) : Option Char :=
  if c = '"' ∨ c = '\\' ∨ c = '/' then some c
  else if c = 'b' then some '\x08'
  else if c = 'f' then some '\x0c'
  else if c = 'n' then some '\n'
  else if c = 'r' then some '\r'
  else if c = 't' then some '\t'
  else none

def scanString? : List Char → Option (List StringPiece × List Char)
  | [] => none
  | '"' :: rest => some ([], rest)
  | '\\' :: 'u' :: a :: b :: c :: d :: rest =>
    match Text.natOfHex? [a, b, c, d], scanString? rest with
    | some n, some (pieces, tail) => some (.code n :: pieces, tail)
    | _, _ => none
  | '\\' :: c :: rest =>
    match escapeLetter? c, scanString? rest with
    | some e, some (pieces, tail) => some (.char e :: pieces, tail)
    | _, _ => none
  | c :: rest =>
    if c.toNat < 0x20 ∨ c = '\\' then none
    else
      match scanString? rest with
      | some (pieces, tail) => some (.char c :: pieces, tail)
      | none => none

theorem length_scanString?_lt {cs rest : List Char} {pieces : List StringPiece}
    (h : scanString? cs = some (pieces, rest)) : rest.length < cs.length := by
  fun_induction scanString? cs generalizing pieces rest <;> simp_all <;> grind

def isLeadSurrogate (n : Nat) : Bool := 0xd800 ≤ n && n < 0xdc00

def isTrailSurrogate (n : Nat) : Bool := 0xdc00 ≤ n && n < 0xe000

/-- Pairs surrogates up; an unpaired one stands for no character. -/
def decodePieces? : List StringPiece → Option (List Char)
  | [] => some []
  | .char c :: rest => (decodePieces? rest).map (c :: ·)
  | .code n :: rest =>
    if isTrailSurrogate n then none
    else if isLeadSurrogate n then
      match rest with
      | .code m :: rest =>
        if isTrailSurrogate m then
          (decodePieces? rest).map
            (Char.ofNat (0x10000 + (n - 0xd800) * 0x400 + (m - 0xdc00)) :: ·)
        else none
      | _ => none
    else (decodePieces? rest).map (Char.ofNat n :: ·)

def isSpace (c : Char) : Bool := c = ' ' || c = '\n' || c = '\t' || c = '\r'

def scanToken? : List Char → Option (Token × List Char)
  | '[' :: rest => some (.openBracket, rest)
  | ']' :: rest => some (.closeBracket, rest)
  | '\x7b' :: rest => some (.openBrace, rest)
  | '\x7d' :: rest => some (.closeBrace, rest)
  | ',' :: rest => some (.comma, rest)
  | ':' :: rest => some (.colon, rest)
  | 'n' :: 'u' :: 'l' :: 'l' :: rest => some (.null, rest)
  | 't' :: 'r' :: 'u' :: 'e' :: rest => some (.bool true, rest)
  | 'f' :: 'a' :: 'l' :: 's' :: 'e' :: rest => some (.bool false, rest)
  | '"' :: rest =>
    (scanString? rest).map fun (pieces, tail) =>
      (.str ((decodePieces? pieces).map String.ofList), tail)
  | cs => (NumberText.scan? cs).map fun (n, tail) => (.number n, tail)

theorem length_scanToken?_lt {cs rest : List Char} {t : Token}
    (h : scanToken? cs = some (t, rest)) : rest.length < cs.length := by
  unfold scanToken? at h
  split at h
  case h_10 =>
    simp only [Option.map_eq_some_iff, Prod.exists, Prod.mk.injEq] at h
    obtain ⟨pieces, tail, hs, -, rfl⟩ := h
    have := length_scanString?_lt hs
    simp only [List.length_cons]
    omega
  case h_11 =>
    simp only [Option.map_eq_some_iff, Prod.exists, Prod.mk.injEq] at h
    obtain ⟨n, tail, hs, -, rfl⟩ := h
    exact NumberText.length_scan?_lt hs
  all_goals grind

def tokens (cs : List Char) : List Token :=
  match cs with
  | [] => []
  | c :: rest =>
    if isSpace c then tokens rest
    else
      match _h : scanToken? (c :: rest) with
      | none => [.bad]
      | some (t, tail) => t :: tokens tail
termination_by cs.length
decreasing_by
  · simp
  · exact length_scanToken?_lt _h

end CqlClient.Json
