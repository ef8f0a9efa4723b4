import CqlClient.Json.Document
import CqlClient.Json.Text
import Mathlib.Algebra.Order.Ring.Int
import Mathlib.Data.List.Forall2

/-!
# Written values are read

`Json.Spells` says that the text of a value is read as a document, whatever comes after it. Texts
and natural numbers are read as they stand, and arrays and objects as what they are made of; by
`Spells.ofText_text` the document of the whole text is then without a fault.
-/

namespace CqlClient

/-- A value is over: the text ends, or one of the marks comes that follow values. -/
def Json.Delimited (rest : List Char) : Prop := ∀ c ∈ rest.head?, c ∈ [',', ']', '\x7d']

open Json (Delimited)

variable {c : Char} {cs rest tail : List Char}

theorem Json.delimited_nil : Delimited [] := nofun

theorem Json.delimited_cons (mark : c ∈ [',', ']', '\x7d']) : Delimited (c :: rest) := by
  rintro _ ⟨⟩
  exact mark

/-! ## Natural numbers -/

theorem head?_toDigits_ne_zero {n : Nat} (positive : 0 < n) :
    (Nat.toDigits 10 n).head? ≠ some '0' := by
  induction n using Nat.strongRecOn with
  | ind n ih =>
    rw [Nat.toDigits_eq_if (by decide)]
    split
    · rename_i small
      have digits : ∀ k < 10, 0 < k → [Nat.digitChar k].head? ≠ some '0' := by decide
      exact digits n small positive
    · rename_i large
      obtain ⟨d, ds, split⟩ := List.exists_cons_of_ne_nil (Nat.toDigits_ne_nil (b := 10) (n := n / 10))
      have first := ih (n / 10) (by omega) (by omega)
      rw [split] at first ⊢
      exact first

namespace NumberText

/-- The text of a natural number, taken apart. -/
def ofNat (n : Nat) : NumberText := ⟨false, Nat.toDigits 10 n, [], none⟩

theorem value?_ofNat {n : Nat} (small : n < 2 ^ 64) : (ofNat n).value? = some (.int n) := by
  have read : Nat.ofDigitChars 10 (Nat.toDigits 10 n) 0 = n := Nat.ofDigitChars_ten_toDigits
  have bound : n < Nat.pow 2 64 := small
  simp [value?, ofNat, read, bound]

theorem spanDigits_of_delimited (digits : ∀ d ∈ cs, d.isDigit) (ended : Delimited rest) :
    spanDigits (cs ++ rest) = (cs, rest) := by
  have stops : rest.takeWhile Char.isDigit = [] ∧ rest.dropWhile Char.isDigit = rest := by
    cases rest with
    | nil => exact ⟨rfl, rfl⟩
    | cons c rest =>
      have marks : ∀ c ∈ [',', ']', '\x7d'], c.isDigit = false := by
        simp only [List.forall_mem_cons]
        exact ⟨rfl, rfl, rfl, List.forall_mem_nil _⟩
      have mark := marks c (ended c rfl)
      simp [mark]
  rw [spanDigits, List.takeWhile_append_of_pos digits, List.dropWhile_append_of_pos digits,
    stops.1, stops.2, List.append_nil]

theorem scanFraction?_of_delimited (ended : Delimited rest) :
    scanFraction? rest = some ([], rest) := by
  unfold scanFraction?
  split
  · exact absurd (ended _ rfl) (by decide)
  · rfl

theorem scanExponent?_of_delimited (ended : Delimited rest) :
    scanExponent? rest = some (none, rest) := by
  cases rest with
  | nil => rfl
  | cons c rest =>
    have marks : ∀ c ∈ [',', ']', '\x7d'], ¬ (c = 'e' ∨ c = 'E') := by simp
    unfold scanExponent?
    exact if_neg (marks c (ended c rfl))

theorem scan?_toDigits (n : Nat) (ended : Delimited rest) :
    scan? (Nat.toDigits 10 n ++ rest) = some (ofNat n, rest) := by
  have digits : ∀ d ∈ Nat.toDigits 10 n, d.isDigit := fun d =>
    Nat.isDigit_of_mem_toDigits (by decide) (by decide)
  obtain ⟨d, ds, split⟩ := List.exists_cons_of_ne_nil (Nat.toDigits_ne_nil (b := 10) (n := n))
  have alone : ¬ (d = '0' ∧ ds ≠ []) := by
    rintro ⟨rfl, more⟩
    rcases Nat.eq_zero_or_pos n with rfl | positive
    · exact more (List.cons.inj split).2.symm
    · exact head?_toDigits_ne_zero positive (by rw [split]; rfl)
  have integer : scanInteger? (Nat.toDigits 10 n ++ rest) = some (Nat.toDigits 10 n, rest) := by
    rw [scanInteger?, spanDigits_of_delimited digits ended, split]
    exact if_neg alone
  have unsigned : scan? (Nat.toDigits 10 n ++ rest) =
      scanUnsigned? false (Nat.toDigits 10 n ++ rest) := by
    unfold scan?
    split
    · rename_i minus
      rw [split, List.cons_append] at minus
      obtain ⟨rfl, -⟩ := List.cons.inj minus
      exact absurd (digits '-' (split ▸ List.mem_cons_self)) (by decide)
    · rfl
  rw [unsigned, scanUnsigned?, integer]
  simp only [scanFraction?_of_delimited ended, scanExponent?_of_delimited ended, ofNat]

end NumberText

namespace Json

/-! ## Tokens -/

/-- How a character stands in a string: behind a backslash by a letter or by its code, or as it is. -/
theorem escapedChar_cases (c : Char) :
    (∃ e, e ≠ 'u' ∧ escapeLetter? e = some c ∧ escapedChar c = ['\\', e]) ∨
    (c.toNat < 0x20 ∧ escapedChar c =
      ['\\', 'u', '0', '0', Nat.digitChar (c.toNat / 16), Nat.digitChar (c.toNat % 16)]) ∨
    (c ≠ '"' ∧ c ≠ '\\' ∧ ¬ c.toNat < 0x20 ∧ escapedChar c = [c]) := by
  by_cases named : c ∈ ['"', '\\', '\x08', '\x0c', '\n', '\r', '\t']
  · simp only [List.mem_cons, List.not_mem_nil, or_false] at named
    left
    rcases named with rfl | rfl | rfl | rfl | rfl | rfl | rfl
    · exact ⟨'"', by decide, rfl, rfl⟩
    · exact ⟨'\\', by decide, rfl, rfl⟩
    · exact ⟨'b', by decide, rfl, rfl⟩
    · exact ⟨'f', by decide, rfl, rfl⟩
    · exact ⟨'n', by decide, rfl, rfl⟩
    · exact ⟨'r', by decide, rfl, rfl⟩
    · exact ⟨'t', by decide, rfl, rfl⟩
  · simp only [List.mem_cons, List.not_mem_nil, or_false, not_or] at named
    obtain ⟨quote, backslash, others⟩ := named
    by_cases control : c.toNat < 0x20
    · exact .inr (.inl ⟨control, by simp [escapedChar, quote, backslash, others, control]⟩)
    · exact .inr (.inr ⟨quote, backslash, control,
        by simp [escapedChar, quote, backslash, others, control]⟩)

/-- An escaped character is one piece of a string, which stands for this character. -/
theorem scanString?_escapedChar (c : Char) {pieces : List StringPiece}
    (scanned : scanString? tail = some (pieces, rest)) :
    ∃ piece, scanString? (escapedChar c ++ tail) = some (piece :: pieces, rest) ∧
      ∀ later, decodePieces? (piece :: later) = (decodePieces? later).map (c :: ·) := by
  rcases escapedChar_cases c with ⟨e, known, letter, written⟩ | ⟨control, written⟩ |
    ⟨quote, backslash, plain, written⟩
  · refine ⟨.char c, ?_, fun later => rfl⟩
    rw [written, List.cons_append, List.singleton_append, scanString?.eq_def]
    simp [known, letter, scanned]
  · have codes : ∀ n < 0x20,
        Text.natOfHex? ['0', '0', Nat.digitChar (n / 16), Nat.digitChar (n % 16)] = some n := by decide
    have lead : isLeadSurrogate c.toNat = false := by simp [isLeadSurrogate]; omega
    have trail : isTrailSurrogate c.toNat = false := by simp [isTrailSurrogate]; omega
    refine ⟨.code c.toNat, ?_, fun later => ?_⟩
    · simp [written, scanString?, codes c.toNat control, scanned]
    · rw [decodePieces?.eq_def]
      simp [lead, trail]
  · refine ⟨.char c, ?_, fun later => rfl⟩
    rw [written, List.singleton_append, scanString?.eq_def]
    simp [backslash, plain, scanned]

theorem scanString?_chars (cs rest : List Char) :
    ∃ pieces, scanString? (cs.flatMap escapedChar ++ '"' :: rest) = some (pieces, rest) ∧
      decodePieces? pieces = some cs := by
  induction cs with
  | nil => exact ⟨[], rfl, rfl⟩
  | cons c cs ih =>
    obtain ⟨pieces, scanned, decoded⟩ := ih
    obtain ⟨piece, first, decodes⟩ := scanString?_escapedChar c scanned
    refine ⟨piece :: pieces, ?_, ?_⟩
    · rw [List.flatMap_cons, List.append_assoc, first]
    · rw [decodes, decoded]
      rfl

theorem tokens_cons {t : Token} (space : isSpace c = false)
    (scanned : scanToken? (c :: cs) = some (t, tail)) : tokens (c :: cs) = t :: tokens tail := by
  rw [tokens.eq_def]
  simp only [space, Bool.false_eq_true, if_false]
  split <;> simp_all

theorem tokens_stringChars (s : String) (rest : List Char) :
    tokens (stringChars s ++ rest) = .str (some s) :: tokens rest := by
  obtain ⟨pieces, scanned, decoded⟩ := scanString?_chars s.toList rest
  have written : stringChars s ++ rest = '"' :: (s.toList.flatMap escapedChar ++ '"' :: rest) := by
    simp [stringChars]
  rw [written]
  refine tokens_cons (by decide) ?_
  simp [scanToken?, scanned, decoded]

theorem tokens_toDigits (n : Nat) (ended : Delimited rest) :
    tokens (Nat.toDigits 10 n ++ rest) = .number (.ofNat n) :: tokens rest := by
  have scanned := NumberText.scan?_toDigits n ended
  obtain ⟨d, ds, split⟩ := List.exists_cons_of_ne_nil (Nat.toDigits_ne_nil (b := 10) (n := n))
  have digit : d.isDigit := Nat.isDigit_of_mem_toDigits (b := 10) (n := n) (by decide) (by decide)
    (split ▸ List.mem_cons_self)
  rw [split, List.cons_append] at scanned ⊢
  have other (c : Char) (h : c.isDigit = false) : d ≠ c := by
    rintro rfl
    simp [digit] at h
  refine tokens_cons ?_ ?_
  · simp [isSpace, other]
  · unfold scanToken?
    split <;> simp_all

/-! ## Documents -/

/-- The text starts with these tokens, whatever follows it, and they are read as the document. -/
structure Spelling (cs : List Char) (first : Token) (later : List Token) (doc : Document) : Prop where
  first_ne : first ≠ .closeBracket
  tokens_eq : ∀ rest, Delimited rest → tokens (cs ++ rest) = first :: (later ++ tokens rest)
  read_eq : ∀ fuel rest, 2 * (later.length + 1) ≤ fuel →
    Document.read fuel (first :: (later ++ rest)) = (doc, rest)

/-- The text of the value is read as the document. -/
def Spells (v : Json) (doc : Document) : Prop := ∃ first later, Spelling v.chars first later doc

namespace Spells

theorem str (s : String) : Spells (.str s) (.str (some s)) := by
  refine ⟨.str (some s), [], nofun, fun rest _ => ?_, fun fuel rest _ => ?_⟩
  · rw [chars, tokens_stringChars]
    rfl
  · rw [Document.read]
    rfl

theorem ofNat (n : Nat) : Spells (.int n) (.number (.ofNat n)) := by
  refine ⟨.number (.ofNat n), [], nofun, fun rest ended => ?_, fun fuel rest _ => ?_⟩
  · have digits : Text.intChars n = Nat.toDigits 10 n := if_neg (by omega)
    rw [chars, digits, tokens_toDigits n ended]
    rfl
  · rw [Document.read]
    rfl

theorem items {items : List Json} {docs : List Document} (h : List.Forall₂ Spells items docs)
    (some : items ≠ []) : ∃ first later, first ≠ Token.closeBracket ∧
      (∀ rest, tokens (itemChars items ++ ']' :: rest) =
        first :: (later ++ .closeBracket :: tokens rest)) ∧
      ∀ fuel rest, 2 * (later.length + 2) ≤ fuel →
        Document.readItems fuel (first :: (later ++ .closeBracket :: rest)) = (docs, rest) := by
  have closes (rest : List Char) : tokens (']' :: rest) = .closeBracket :: tokens rest :=
    tokens_cons (by decide) rfl
  have parts (rest : List Char) : tokens (',' :: rest) = .comma :: tokens rest :=
    tokens_cons (by decide) rfl
  induction h with
  | nil => exact absurd rfl some
  | @cons v doc items docs spelled rest ih =>
    obtain ⟨first, later, spelling⟩ := spelled
    cases rest with
    | nil =>
      refine ⟨first, later, spelling.first_ne, fun rest => ?_, fun fuel rest enough => ?_⟩
      · rw [itemChars, spelling.tokens_eq _ (delimited_cons (by decide)), closes]
      · obtain ⟨fuel, rfl⟩ := Nat.exists_eq_succ_of_ne_zero (show fuel ≠ 0 by omega)
        rw [Document.readItems, spelling.read_eq fuel _ (by omega)]
    | cons _ _ =>
      obtain ⟨first', later', -, tokens_eq, read_eq⟩ := ih (List.cons_ne_nil _ _)
      refine ⟨first, later ++ .comma :: first' :: later', spelling.first_ne, fun rest => ?_,
        fun fuel rest enough => ?_⟩
      · rw [itemChars, List.append_assoc, List.cons_append,
          spelling.tokens_eq _ (delimited_cons (by decide)), parts, tokens_eq, List.append_assoc,
          List.cons_append, List.cons_append]
      · rw [List.length_append, List.length_cons, List.length_cons] at enough
        obtain ⟨fuel, rfl⟩ := Nat.exists_eq_succ_of_ne_zero (show fuel ≠ 0 by omega)
        rw [Document.readItems, List.append_assoc, spelling.read_eq fuel _ (by omega),
          List.cons_append, List.cons_append]
        simp only
        rw [read_eq fuel rest (by omega)]

theorem arr {items : List Json} {docs : List Document} (h : List.Forall₂ Spells items docs) :
    Spells (.arr items) (.arr docs) := by
  have opens (rest : List Char) : tokens ('[' :: rest) = .openBracket :: tokens rest :=
    tokens_cons (by decide) rfl
  by_cases empty : items = []
  · subst empty
    cases h
    refine ⟨.openBracket, [.closeBracket], nofun, fun rest _ => ?_, fun fuel rest _ => ?_⟩
    · exact (opens _).trans (congrArg _ (tokens_cons (by decide) rfl))
    · rw [List.singleton_append, Document.read]
  · obtain ⟨first, later, first_ne, tokens_eq, read_eq⟩ := Spells.items h empty
    refine ⟨.openBracket, first :: (later ++ [.closeBracket]), nofun, fun rest _ => ?_,
      fun fuel rest enough => ?_⟩
    · rw [chars, List.cons_append, List.append_assoc, List.singleton_append, opens, tokens_eq]
      simp
    · rw [List.length_cons, List.length_append, List.length_singleton] at enough
      obtain ⟨fuel, rfl⟩ := Nat.exists_eq_succ_of_ne_zero (show fuel ≠ 0 by omega)
      rw [List.cons_append, List.append_assoc, List.singleton_append, Document.read,
        read_eq fuel rest (by omega)]
      exact fun _ same => first_ne (List.cons.inj same).1

/-- A key as it stands in an object, and a value that is read. -/
def Member (m : String × Json) (doc : Document × Document) : Prop :=
  doc.1 = .str (some m.1) ∧ Spells m.2 doc.2

theorem members {members : Members} {docs : List (Document × Document)}
    (h : List.Forall₂ Member members docs) (some : members ≠ []) : ∃ key later,
      (∀ rest, tokens (memberChars members ++ '\x7d' :: rest) =
        .str key :: (later ++ .closeBrace :: tokens rest)) ∧
      ∀ fuel rest, 2 * (later.length + 2) ≤ fuel →
        Document.readMembers fuel (.str key :: (later ++ .closeBrace :: rest)) = (docs, rest) := by
  have closes (rest : List Char) : tokens ('\x7d' :: rest) = .closeBrace :: tokens rest :=
    tokens_cons (by decide) rfl
  have parts (rest : List Char) : tokens (',' :: rest) = .comma :: tokens rest :=
    tokens_cons (by decide) rfl
  have colon (rest : List Char) : tokens (':' :: rest) = .colon :: tokens rest :=
    tokens_cons (by decide) rfl
  induction h with
  | nil => exact absurd rfl some
  | @cons m doc members docs spelled rest ih =>
    obtain ⟨key, v⟩ := m
    obtain ⟨_, doc⟩ := doc
    obtain ⟨rfl, first, later, spelling⟩ := spelled
    cases rest with
    | nil =>
      refine ⟨key, .colon :: first :: later, fun rest => ?_, fun fuel rest enough => ?_⟩
      · rw [memberChars, List.append_assoc, List.cons_append, tokens_stringChars, colon,
          spelling.tokens_eq _ (delimited_cons (by decide)), closes]
        rfl
      · rw [List.length_cons, List.length_cons] at enough
        obtain ⟨fuel, rfl⟩ := Nat.exists_eq_succ_of_ne_zero (show fuel ≠ 0 by omega)
        rw [List.cons_append, List.cons_append, Document.readMembers,
          spelling.read_eq fuel _ (by omega)]
    | cons _ _ =>
      obtain ⟨key', later', tokens_eq, read_eq⟩ := ih (List.cons_ne_nil _ _)
      refine ⟨key, .colon :: first :: (later ++ .comma :: .str key' :: later'), fun rest => ?_,
        fun fuel rest enough => ?_⟩
      · rw [memberChars, List.append_assoc, List.cons_append, tokens_stringChars, colon,
          List.append_assoc, List.cons_append, spelling.tokens_eq _ (delimited_cons (by decide)),
          parts, tokens_eq]
        simp
      · simp only [List.length_append, List.length_cons] at enough
        obtain ⟨fuel, rfl⟩ := Nat.exists_eq_succ_of_ne_zero (show fuel ≠ 0 by omega)
        rw [List.cons_append, List.cons_append, List.append_assoc, Document.readMembers,
          spelling.read_eq fuel _ (by omega), List.cons_append, List.cons_append]
        simp only
        rw [read_eq fuel rest (by omega)]

theorem obj {members : Members} {docs : List (Document × Document)}
    (h : List.Forall₂ Member members docs) : Spells (.obj members) (.obj docs) := by
  have opens (rest : List Char) : tokens ('\x7b' :: rest) = .openBrace :: tokens rest :=
    tokens_cons (by decide) rfl
  by_cases empty : members = []
  · subst empty
    cases h
    refine ⟨.openBrace, [.closeBrace], nofun, fun rest _ => ?_, fun fuel rest _ => ?_⟩
    · exact (opens _).trans (congrArg _ (tokens_cons (by decide) rfl))
    · rw [List.singleton_append, Document.read]
  · obtain ⟨key, later, tokens_eq, read_eq⟩ := Spells.members h empty
    refine ⟨.openBrace, .str key :: (later ++ [.closeBrace]), nofun, fun rest _ => ?_,
      fun fuel rest enough => ?_⟩
    · rw [chars, List.cons_append, List.append_assoc, List.singleton_append, opens, tokens_eq]
      simp
    · rw [List.length_cons, List.length_append, List.length_singleton] at enough
      obtain ⟨fuel, rfl⟩ := Nat.exists_eq_succ_of_ne_zero (show fuel ≠ 0 by omega)
      rw [List.cons_append, List.append_assoc, List.singleton_append, Document.read,
        read_eq fuel rest (by omega)]
      exact fun _ same => nomatch (List.cons.inj same).1

theorem ofText_text {v : Json} {doc : Document} (h : Spells v doc) :
    Document.ofText v.text = (doc, true) := by
  obtain ⟨first, later, spelling⟩ := h
  have whole : tokens v.chars = first :: later := by
    have scanned := spelling.tokens_eq [] delimited_nil
    have none : tokens [] = [] := by rw [tokens]
    rwa [List.append_nil, none, List.append_nil] at scanned
  have read := spelling.read_eq (2 * (first :: later).length) [] (by simp)
  rw [List.append_nil] at read
  rw [Document.ofText, text, String.toList_ofList, whole, read]
  rfl

end Spells

end Json

end CqlClient
