import CqlClient.Proofs.Except
import CqlClient.Proofs.Format.Definition
import CqlClient.Proofs.Text.Lexeme

/-!
# Map literals

In a map literal of CQL a key is a text, and a value is a text or a number. The entries are parted
by the commas outside all texts, whatever stands inside. `readMap` reads such a literal, and by
`readMap_definitionLiteral` it reads the literal of an object as the members of the object.
-/

namespace CqlClient

/-- A character that stands for itself in a text, as JSON and as CQL write it. -/
def IsPlainChar (c : Char) : Prop := c ∉ ['\'', '"', '\\'] ∧ 0x20 ≤ c.toNat

def IsPlainText (s : String) : Prop := s ≠ "" ∧ ∀ c ∈ s.toList, IsPlainChar c

instance (c : Char) : Decidable (IsPlainChar c) := inferInstanceAs (Decidable (_ ∧ _))

instance (s : String) : Decidable (IsPlainText s) :=
  @instDecidableAnd _ _ _ (List.decidableBAll IsPlainChar s.toList)

theorem IsPlainChar.definitionChar_eq {c : Char} (h : IsPlainChar c) : definitionChar c = [c] := by
  obtain ⟨other, visible⟩ := h
  have control {d : Char} (low : d.toNat < 0x20) : c ≠ d := fun same => by
    rw [same] at visible
    omega
  simp only [List.mem_cons, List.not_mem_nil, or_false, not_or] at other
  obtain ⟨apostrophe, quote, backslash⟩ := other
  rw [definitionChar, if_neg apostrophe, if_neg quote, Json.escapedChar, if_neg quote,
    if_neg backslash, if_neg (control (by decide)), if_neg (control (by decide)),
    if_neg (control (by decide)), if_neg (control (by decide)), if_neg (control (by decide)),
    if_neg (by omega)]

theorem IsPlainText.apostrophized_eq {s : String} (h : IsPlainText s) :
    apostrophized s = (Lexeme.quoted '\'' s.toList).spelled := by
  have same : s.toList.flatMap definitionChar = s.toList.flatMap fun c => [c] :=
    List.flatMap_congr fun c member => (h.2 c member).definitionChar_eq
  have quoteless : '\'' ∉ s.toList := fun member => (h.2 _ member).1 (by decide)
  rw [apostrophized, same, List.flatMap_singleton', Lexeme.spelled, doubled_of_not_mem quoteless]

theorem IsPlainText.closes {s : String} (h : IsPlainText s) : Closes s := by
  refine ⟨h.1, fun last => ?_⟩
  exact (h.2 _ (List.mem_of_getLast? last)).1 (by decide)

namespace Json

/-! ## The lexemes of a literal -/

def Symbol.lexeme : Symbol → Lexeme
  | outside c => .char c
  | text s => .quoted '\'' s.toList

theorem Tidy.proper {ls : List Symbol} (h : Tidy ls) : Proper (ls.map Symbol.lexeme) := by
  constructor
  · refine List.forall_mem_map.2 fun l member => ?_
    have clean := h.clean l member
    cases l with
    | outside c =>
      rintro (rfl | rfl)
      · exact clean (by decide)
      · exact clean (by decide)
    | text s => exact .inl rfl
  · rw [List.isChain_map]
    refine h.apart.imp fun l m apart both => apart ?_
    cases l with
    | outside c => exact both.1.elim
    | text s =>
      cases m with
      | outside c => exact both.2.elim
      | text s' => exact ⟨trivial, trivial⟩

theorem write_apostrophized {ls : List Symbol} (h : ∀ s, .text s ∈ ls → IsPlainText s) :
    write apostrophized ls = spell (ls.map Symbol.lexeme) := by
  rw [spell, List.flatMap_map]
  refine List.flatMap_congr fun l member => ?_
  cases l with
  | outside c => rfl
  | text s => exact (h s member).apostrophized_eq

end Json

theorem lex_definitionLiteral {v : Json} (compound : ∀ s, v ≠ .str s)
    (plain : ∀ s, .text s ∈ v.symbols → IsPlainText s) :
    lex (definitionLiteral v).toList = some (v.symbols.map Json.Symbol.lexeme) := by
  have closes : ∀ s, .text s ∈ v.symbols → Closes s := fun s member => (plain s member).closes
  rw [(definitionLiteral_eq_iff v).2 ⟨compound, closes⟩, Json.textWith, String.toList_ofList,
    Json.write_apostrophized plain]
  exact lex_spell (Json.tidy_symbols v).proper

/-! ## Reading a map -/

def Lexeme.char? : Lexeme → Option Char
  | .char c => some c
  | .quoted _ _ => none

def readMapValue : List Lexeme → Option Json
  | [.quoted '\'' content] => some (.str (String.ofList content))
  | ls => ((ls.mapM Lexeme.char?).bind Text.intOfDigits?).map .int

def readMapEntry : List Lexeme → Option (String × Json)
  | .quoted '\'' key :: .char ':' :: value => (readMapValue value).map (String.ofList key, ·)
  | _ => none

def readMapEntries (ls : List Lexeme) : Option Members :=
  if ls = [] then some [] else (ls.splitOn (.char ',')).mapM readMapEntry

def readMap (literal : String) : Option Members := do
  match ← lex literal.toList with
  | .char '{' :: ls => if ls.getLast? = some (.char '}') then readMapEntries ls.dropLast else none
  | _ => none

/-- A value that a map literal can hold. -/
inductive IsMapValue : Json → Prop where
  | text {s : String} (plain : IsPlainText s) : IsMapValue (.str s)
  | number (n : Int) : IsMapValue (.int n)

structure IsMapEntry (m : String × Json) : Prop where
  key : IsPlainText m.1
  value : IsMapValue m.2

section Map

variable {m : String × Json} {members : Members} {v : Json}

def entryLexemes (m : String × Json) : List Lexeme :=
  .quoted '\'' m.1.toList :: .char ':' :: m.2.symbols.map Json.Symbol.lexeme

theorem map_lexeme_memberSymbols : ∀ members : Members,
    (Json.memberSymbols members).map Json.Symbol.lexeme =
      [Lexeme.char ','].intercalate (members.map entryLexemes)
  | [] => rfl
  | [m] => by simp [Json.memberSymbols, Json.Symbol.lexeme, entryLexemes]
  | m :: m' :: rest => by
    have others := map_lexeme_memberSymbols (m' :: rest)
    rw [List.map_cons, List.map_cons, List.intercalate_cons_cons, ← List.map_cons, ← others]
    simp [Json.memberSymbols, Json.Symbol.lexeme, entryLexemes]

theorem map_lexeme_int (n : Int) :
    (Json.int n).symbols.map Json.Symbol.lexeme = plain (Text.intChars n) := by
  rw [Json.symbols, List.map_map]
  rfl

theorem readMapValue_lexemes (h : IsMapValue v) :
    readMapValue (v.symbols.map Json.Symbol.lexeme) = some v := by
  cases h with
  | @text s plain => simp [Json.symbols, Json.Symbol.lexeme, readMapValue]
  | number n =>
    have each (c : Char) (_ : c ∈ Text.intChars n) : Lexeme.char? (.char c) = some c := rfl
    have chars : (plain (Text.intChars n)).mapM Lexeme.char? = some (Text.intChars n) :=
      (mapM_map_eq_some each).trans (congrArg some (List.map_id' _))
    -- the reader tries a text first, and a number is spelled without quotes
    rw [map_lexeme_int, readMapValue]
    · rw [chars, Option.bind_some, intOfDigits?_intChars]
      rfl
    · intro content region
      have quoted : Lexeme.quoted '\'' content ∈ plain (Text.intChars n) := by simp [region]
      exact quoted_not_mem_plain quoted

theorem readMapEntry_lexemes (h : IsMapEntry m) : readMapEntry (entryLexemes m) = some m := by
  rw [entryLexemes, readMapEntry, readMapValue_lexemes h.value, String.ofList_toList]
  rfl

theorem comma_not_mem_entryLexemes (h : IsMapEntry m) : .char ',' ∉ entryLexemes m := by
  obtain ⟨key, v⟩ := m
  cases h.value with
  | text plain => simp [entryLexemes, Json.symbols, Json.Symbol.lexeme]
  | number n =>
    intro comma
    rw [entryLexemes, map_lexeme_int] at comma
    have digit : ',' ∈ Text.intChars n := by simpa [plain] using comma
    have numeric := isNumeric_of_mem_intChars digit
    revert numeric
    decide

theorem isPlainText_of_mem_entryLexemes (h : IsMapEntry m) {s : String}
    (member : .quoted '\'' s.toList ∈ entryLexemes m) : IsPlainText s := by
  rw [entryLexemes, List.mem_cons, List.mem_cons] at member
  rcases member with key | colon | value
  · have same : s = m.1 := String.toList_inj.1 (Lexeme.quoted.inj key).2
    exact same ▸ h.key
  · cases colon
  · obtain ⟨key, v⟩ := m
    cases h.value with
    | @text s' plain =>
      have same : s.toList = s'.toList := by
        simpa [Json.symbols, Json.Symbol.lexeme] using value
      exact String.toList_inj.1 same ▸ plain
    | number n =>
      rw [map_lexeme_int] at value
      exact absurd value quoted_not_mem_plain

theorem isPlainText_of_mem_symbols (h : ∀ m ∈ members, IsMapEntry m) {s : String}
    (member : .text s ∈ (Json.obj members).symbols) : IsPlainText s := by
  have inside : Json.Symbol.text s ∈ Json.memberSymbols members := by
    simpa [Json.symbols] using member
  have spelled := List.mem_map_of_mem (f := Json.Symbol.lexeme) inside
  rw [map_lexeme_memberSymbols] at spelled
  rcases mem_of_mem_intercalate spelled with comma | ⟨ls, among, inside⟩
  · cases List.mem_singleton.1 comma
  · obtain ⟨m, entry, rfl⟩ := List.mem_map.1 among
    exact isPlainText_of_mem_entryLexemes (h m entry) inside

theorem readMapEntries_lexemes (h : ∀ m ∈ members, IsMapEntry m) :
    readMapEntries ([Lexeme.char ','].intercalate (members.map entryLexemes)) = some members := by
  cases members with
  | nil => rfl
  | cons m rest =>
    have some_lexeme : [Lexeme.char ','].intercalate ((m :: rest).map entryLexemes) ≠ [] := by
      cases rest <;> simp [entryLexemes]
    have commaless : ∀ ls ∈ (m :: rest).map entryLexemes, Lexeme.char ',' ∉ ls :=
      List.forall_mem_map.2 fun m entry => comma_not_mem_entryLexemes (h m entry)
    have parted := List.splitOn_intercalate (Lexeme.char ',') commaless (by simp)
    have each (m' : String × Json) (entry : m' ∈ m :: rest) :
        readMapEntry (entryLexemes m') = some m' :=
      readMapEntry_lexemes (h m' entry)
    rw [readMapEntries, if_neg some_lexeme, parted]
    exact (mapM_map_eq_some each).trans (congrArg some (List.map_id' _))

theorem readMap_definitionLiteral (h : ∀ m ∈ members, IsMapEntry m) :
    readMap (definitionLiteral (.obj members)) = some members := by
  have lexemes := lex_definitionLiteral (v := .obj members) nofun fun s =>
    isPlainText_of_mem_symbols h
  rw [readMap, lexemes]
  simp [Json.symbols, Json.Symbol.lexeme, map_lexeme_memberSymbols, readMapEntries_lexemes h]

end Map

end CqlClient
