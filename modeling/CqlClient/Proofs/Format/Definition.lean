import CqlClient.Format.Literal
import CqlClient.Proofs.Text.Number
import Mathlib.Data.List.Basic
import Mathlib.Data.List.Chain
import Mathlib.Tactic.SplitIfs

/-!
# Literals of definitions

A definition should hold a value as its JSON text with single quotes around every text in it.
`definitionLiteral` rewrites the JSON text in three passes that know nothing of its structure.
`definitionLiteral_eq_iff` tells for which values they come to what they should: the value is no
text itself, and each text in it, keys included, has a last character other than a backslash.
-/

namespace CqlClient

/-! ## Symbols of a JSON text -/

namespace Json

inductive Symbol where
  | outside (c : Char)
  | text (s : String)
  deriving DecidableEq

namespace Symbol

def written (token : String → List Char) : Symbol → List Char
  | outside c => [c]
  | text s => token s

def IsText : Symbol → Prop
  | outside _ => False
  | text _ => True

/-- Outside its texts a JSON text has neither quotes nor backslashes. -/
def IsClean : Symbol → Prop
  | outside c => c ∉ ['"', '\'', '\\']
  | text _ => True

end Symbol

mutual

def symbols : Json → List Symbol
  | .null => ['n', 'u', 'l', 'l'].map .outside
  | .bool true => ['t', 'r', 'u', 'e'].map .outside
  | .bool false => ['f', 'a', 'l', 's', 'e'].map .outside
  | .int n => (Text.intChars n).map .outside
  | .float x => (floatText x).toList.map .outside
  | .str s => [.text s]
  | .arr items => .outside '[' :: (itemSymbols items ++ [.outside ']'])
  | .obj members => .outside '{' :: (memberSymbols members ++ [.outside '}'])

def itemSymbols : List Json → List Symbol
  | [] => []
  | [v] => v.symbols
  | v :: w :: rest => v.symbols ++ .outside ',' :: itemSymbols (w :: rest)

def memberSymbols : List (String × Json) → List Symbol
  | [] => []
  | [(k, v)] => .text k :: .outside ':' :: v.symbols
  | (k, v) :: m :: rest =>
    .text k :: .outside ':' :: (v.symbols ++ .outside ',' :: memberSymbols (m :: rest))

end

def write (token : String → List Char) (ls : List Symbol) : List Char :=
  ls.flatMap (Symbol.written token)

/-- The compact text of a value, but each text in it, keys included, is written by `token`. -/
def textWith (token : String → List Char) (v : Json) : String :=
  String.ofList (write token v.symbols)

section Write

variable (token : String → List Char)

@[simp] theorem write_nil : write token [] = [] := rfl

@[simp] theorem write_cons (l : Symbol) (ls : List Symbol) :
    write token (l :: ls) = l.written token ++ write token ls := rfl

@[simp] theorem write_append (ls ms : List Symbol) :
    write token (ls ++ ms) = write token ls ++ write token ms :=
  List.flatMap_append

@[simp] theorem write_outside (cs : List Char) : write token (cs.map .outside) = cs := by
  induction cs with
  | nil => rfl
  | cons c cs ih => rw [List.map_cons, write_cons, ih]; rfl

end Write

mutual

theorem write_symbols : ∀ v : Json, write stringChars v.symbols = v.chars
  | .null => rfl
  | .bool true => rfl
  | .bool false => rfl
  | .int n => by simp [symbols, chars]
  | .float x => by simp [symbols, chars]
  | .str s => by simp [symbols, chars, Symbol.written]
  | .arr items => by simp [symbols, chars, Symbol.written, write_itemSymbols items]
  | .obj members => by simp [symbols, chars, Symbol.written, write_memberSymbols members]

theorem write_itemSymbols : ∀ items : List Json,
    write stringChars (itemSymbols items) = itemChars items
  | [] => rfl
  | [v] => by simp [itemSymbols, itemChars, write_symbols v]
  | v :: w :: rest => by
    simp [itemSymbols, itemChars, Symbol.written, write_symbols v, write_itemSymbols (w :: rest)]

theorem write_memberSymbols : ∀ members : List (String × Json),
    write stringChars (memberSymbols members) = memberChars members
  | [] => rfl
  | [(k, v)] => by simp [memberSymbols, memberChars, Symbol.written, write_symbols v]
  | (k, v) :: m :: rest => by
    simp [memberSymbols, memberChars, Symbol.written, write_symbols v,
      write_memberSymbols (m :: rest)]

end

theorem textWith_stringChars (v : Json) : v.textWith stringChars = v.text := by
  rw [textWith, write_symbols, text]

/-! ## Texts stand apart -/

structure Tidy (ls : List Symbol) : Prop where
  clean : ∀ l ∈ ls, l.IsClean
  apart : ls.IsChain fun l m => ¬ (l.IsText ∧ m.IsText)

namespace Tidy

variable {c : Char} {ls ms : List Symbol}

theorem nil : Tidy [] := ⟨by simp, .nil⟩

theorem text (s : String) : Tidy [.text s] := ⟨by simp [Symbol.IsClean], .singleton _⟩

theorem outside_cons (hc : c ∉ ['"', '\'', '\\']) (h : Tidy ls) : Tidy (.outside c :: ls) := by
  constructor
  · intro l member
    rcases List.mem_cons.1 member with rfl | member
    · exact hc
    · exact h.clean l member
  · rw [List.isChain_cons]
    exact ⟨fun m _ both => both.1, h.apart⟩

theorem append_outside (hc : c ∉ ['"', '\'', '\\']) (h : Tidy ls) (h' : Tidy ms) :
    Tidy (ls ++ .outside c :: ms) := by
  have right := h'.outside_cons hc
  constructor
  · intro l member
    rcases List.mem_append.1 member with member | member
    · exact h.clean l member
    · exact right.clean l member
  · rw [List.isChain_append]
    refine ⟨h.apart, right.apart, fun l _ m first both => ?_⟩
    obtain rfl : Symbol.outside c = m := by simpa using first
    exact both.2

theorem outsides {cs : List Char} (h : ∀ c ∈ cs, c ∉ ['"', '\'', '\\']) :
    Tidy (cs.map .outside) := by
  induction cs with
  | nil => exact nil
  | cons c cs ih =>
    obtain ⟨first, rest⟩ := List.forall_mem_cons.1 h
    exact outside_cons first (ih rest)

theorem numeric {cs : List Char} (h : ∀ c ∈ cs, IsNumeric c) : Tidy (cs.map .outside) := by
  refine outsides fun c member special => ?_
  have digit := h c member
  simp only [List.mem_cons, List.not_mem_nil, or_false] at special
  rcases special with rfl | rfl | rfl
  · revert digit; decide
  · revert digit; decide
  · revert digit; decide

end Tidy

mutual

theorem tidy_symbols : ∀ v : Json, Tidy v.symbols
  | .null => .outsides (by simp)
  | .bool true => .outsides (by simp)
  | .bool false => .outsides (by simp)
  | .int _ => .numeric fun _ => isNumeric_of_mem_intChars
  | .float _ => .numeric fun _ => isNumeric_of_mem_floatText
  | .str s => .text s
  | .arr items =>
    .outside_cons (by decide) ((tidy_itemSymbols items).append_outside (by decide) .nil)
  | .obj members =>
    .outside_cons (by decide) ((tidy_memberSymbols members).append_outside (by decide) .nil)

theorem tidy_itemSymbols : ∀ items : List Json, Tidy (itemSymbols items)
  | [] => .nil
  | [v] => tidy_symbols v
  | v :: w :: rest => (tidy_symbols v).append_outside (by decide) (tidy_itemSymbols (w :: rest))

theorem tidy_memberSymbols : ∀ members : List (String × Json), Tidy (memberSymbols members)
  | [] => .nil
  | [(k, v)] => (Tidy.text k).append_outside (by decide) (tidy_symbols v)
  | (k, v) :: m :: rest =>
    (Tidy.text k).append_outside (by decide)
      ((tidy_symbols v).append_outside (by decide) (tidy_memberSymbols (m :: rest)))

end

end Json

/-! ## Texts between single quotes -/

/-- A character of a text: escaped as in JSON, but single quotes are escaped and double ones not. -/
def definitionChar (c : Char) : List Char :=
  if c = '\'' then ['\\', '\'']
  else if c = '"' then ['"']
  else Json.escapedChar c

def apostrophized (s : String) : List Char := '\'' :: (s.toList.flatMap definitionChar ++ ['\''])

/-- What the first pass makes of a character of a text. -/
def passedChar (c : Char) : List Char := escapeApostrophes (Json.escapedChar c)

def passedChars (cs : List Char) : List Char := cs.flatMap passedChar

@[simp] theorem passedChars_nil : passedChars [] = [] := rfl

theorem passedChars_append (cs ds : List Char) :
    passedChars (cs ++ ds) = passedChars cs ++ passedChars ds :=
  List.flatMap_append

theorem escapeApostrophes_append (cs ds : List Char) :
    escapeApostrophes (cs ++ ds) = escapeApostrophes cs ++ escapeApostrophes ds :=
  List.flatMap_append

theorem escapeApostrophes_of_not_mem {cs : List Char} (h : '\'' ∉ cs) :
    escapeApostrophes cs = cs := by
  induction cs with
  | nil => rfl
  | cons c cs ih =>
    rw [List.mem_cons, not_or] at h
    have rest := ih h.2
    rw [escapeApostrophes] at rest
    rw [escapeApostrophes, List.flatMap_cons, if_neg (Ne.symm h.1), rest]
    rfl

theorem digitChar_plain : ∀ n < 16, Nat.digitChar n ∉ ['"', '\'', '\\'] := by decide

theorem escapedChar_shape {c : Char} (quote : c ≠ '"') (backslash : c ≠ '\\') :
    ∃ cs d, Json.escapedChar c = cs ++ [d] ∧ (∀ e ∈ cs, e ∉ ['"', '\'']) ∧
      d ∉ ['"', '\\'] ∧ (d = '\'' → c = '\'') := by
  have named (d : Char) (hd : d ∉ ['"', '\'', '\\']) : d ∉ ['"', '\\'] ∧ (d = '\'' → c = '\'') := by
    simp only [List.mem_cons, List.not_mem_nil, or_false, not_or] at hd ⊢
    exact ⟨⟨hd.1, hd.2.2⟩, fun same => absurd same hd.2.1⟩
  unfold Json.escapedChar
  rw [if_neg quote, if_neg backslash]
  split_ifs
  iterate 5 exact ⟨['\\'], _, rfl, by simp, named _ (by decide)⟩
  · rename_i control
    have low := digitChar_plain (c.toNat / 16) (by omega)
    have high := digitChar_plain (c.toNat % 16) (by omega)
    refine ⟨['\\', 'u', '0', '0', Nat.digitChar (c.toNat / 16)], _, rfl, ?_, named _ high⟩
    simp only [List.mem_cons, List.not_mem_nil, or_false, not_or] at low
    simp [low]
  · exact ⟨[], c, rfl, by simp, by simp [quote, backslash], id⟩

theorem passedChar_cases (c : Char) :
    c = '"' ∨ c = '\\' ∨ c ≠ '\\' ∧ definitionChar c = passedChar c ∧ '"' ∉ passedChar c ∧
      ∃ cs d, passedChar c = cs ++ [d] ∧ d ≠ '\\' := by
  by_cases quote : c = '"'
  · exact .inl quote
  by_cases backslash : c = '\\'
  · exact .inr (.inl backslash)
  refine .inr (.inr ⟨backslash, ?_⟩)
  by_cases apostrophe : c = '\''
  · subst apostrophe
    exact ⟨rfl, by decide, ['\\'], '\'', rfl, by decide⟩
  · obtain ⟨cs, d, shape, plain, special, same⟩ := escapedChar_shape quote backslash
    simp only [List.mem_cons, List.not_mem_nil, or_false, not_or] at plain special
    have none : '\'' ∉ Json.escapedChar c := by
      rw [shape, List.mem_append, List.mem_singleton, not_or]
      exact ⟨fun member => (plain _ member).2 rfl, fun eq => apostrophe (same eq.symm)⟩
    have unchanged : passedChar c = Json.escapedChar c := escapeApostrophes_of_not_mem none
    refine ⟨?_, ?_, cs, d, unchanged.trans shape, special.2⟩
    · rw [definitionChar, if_neg apostrophe, if_neg quote, unchanged]
    · rw [unchanged, shape, List.mem_append, List.mem_singleton, not_or]
      exact ⟨fun member => (plain _ member).1 rfl, Ne.symm special.1⟩

theorem passedChar_ne_nil (c : Char) : passedChar c ≠ [] := by
  rcases passedChar_cases c with rfl | rfl | ⟨-, -, -, cs, d, shape, -⟩
  · decide
  · decide
  · simp [shape]

theorem getLast?_passedChar (c : Char) : (passedChar c).getLast? = some '\\' ↔ c = '\\' := by
  rcases passedChar_cases c with rfl | rfl | ⟨backslash, -, -, cs, d, shape, other⟩
  · decide
  · decide
  · simp [shape, other, backslash]

theorem head?_passedChar (c : Char) : (passedChar c).head? ≠ some '"' := by
  rcases passedChar_cases c with rfl | rfl | ⟨-, -, none, -⟩
  · decide
  · decide
  · exact fun first => none (List.mem_of_mem_head? first)

theorem passedChars_ne_nil {cs : List Char} (h : cs ≠ []) : passedChars cs ≠ [] := by
  cases cs with
  | nil => exact absurd rfl h
  | cons c cs =>
    rw [passedChars, List.flatMap_cons]
    exact List.append_ne_nil_of_left_ne_nil (passedChar_ne_nil c) _

theorem getLast?_passedChars (cs : List Char) :
    (passedChars cs).getLast? = some '\\' ↔ cs.getLast? = some '\\' := by
  rcases List.eq_nil_or_concat' cs with rfl | ⟨ds, c, rfl⟩
  · simp
  · have single : passedChars [c] = passedChar c := List.flatMap_singleton ..
    rw [passedChars_append, single, List.getLast?_append_of_ne_nil _ (passedChar_ne_nil c),
      getLast?_passedChar, List.getLast?_append, List.getLast?_singleton]
    simp

theorem head?_passedChars (cs : List Char) : (passedChars cs).head? ≠ some '"' := by
  cases cs with
  | nil => simp
  | cons c cs =>
    rw [passedChars, List.flatMap_cons, List.head?_append_of_ne_nil _ (passedChar_ne_nil c)]
    exact head?_passedChar c

/-! ## The second pass -/

/-- The second pass with the character before, unless that has been used up. -/
def requoteAfter (before : Option Char) : List Char → List Char
  | [] => []
  | c :: rest =>
    if c = '"' ∧ before ≠ none ∧ before ≠ some '\\' then '\'' :: requoteAfter none rest
    else c :: requoteAfter (some c) rest

theorem requote_eq (cs : List Char) : requote cs = requoteAfter none cs := by
  fun_induction requote cs with
  | case1 => rfl
  | case2 c => simp [requoteAfter]
  | case3 c d rest turned ih => simp [requoteAfter, turned, ih]
  | case4 c d rest kept ih =>
    have other : ¬ (d = '"' ∧ c ≠ '\\') := fun both => kept both.symm
    rw [ih]
    simp [requoteAfter, other]

/-- The second pass leaves these characters as they are, whatever stands around them. -/
def Kept (cs : List Char) : Prop :=
  ∀ before rest, requoteAfter before (cs ++ rest) = cs ++ requoteAfter (cs.getLast?.or before) rest

namespace Kept

theorem append {cs ds : List Char} (hc : Kept cs) (hd : Kept ds) : Kept (cs ++ ds) := by
  intro before rest
  rw [List.append_assoc, hc, hd, List.append_assoc, List.getLast?_append, Option.or_assoc]

theorem of_not_mem {cs : List Char} (h : '"' ∉ cs) : Kept cs := by
  induction cs with
  | nil => intro before rest; rfl
  | cons c cs ih =>
    rw [List.mem_cons, not_or] at h
    have first : Kept [c] := by
      intro before rest
      simp [requoteAfter, Ne.symm h.1]
    exact first.append (ih h.2)

theorem passedChar (c : Char) : Kept (passedChar c) := by
  rcases passedChar_cases c with rfl | rfl | ⟨-, -, none, -⟩
  · intro before rest
    have written : CqlClient.passedChar '"' = ['\\', '"'] := rfl
    simp [written, requoteAfter]
  · exact of_not_mem (by decide)
  · exact of_not_mem none

theorem passedChars (cs : List Char) : Kept (passedChars cs) := by
  induction cs with
  | nil => intro before rest; rfl
  | cons c cs ih => exact append (passedChar c) ih

end Kept

/-- The second pass finds the end of the text: a character other than a backslash stands before. -/
def Closes (s : String) : Prop := s ≠ "" ∧ s.toList.getLast? ≠ some '\\'

instance (s : String) : Decidable (Closes s) := inferInstanceAs (Decidable (_ ∧ _))

theorem not_closes_cases {s : String} (h : ¬ Closes s) :
    s.toList = [] ∨ ∃ cs, s.toList = cs ++ ['\\'] := by
  rcases List.eq_nil_or_concat' s.toList with empty | ⟨cs, c, shape⟩
  · exact .inl empty
  · refine .inr ⟨cs, ?_⟩
    by_contra other
    refine h ⟨?_, ?_⟩
    · rintro rfl
      simp at shape
    · intro last
      rw [shape, List.getLast?_concat, Option.some.injEq] at last
      exact other (last ▸ shape)

def passedToken (s : String) : List Char := '"' :: (passedChars s.toList ++ ['"'])

def requotedToken (s : String) : List Char :=
  '\'' :: (passedChars s.toList ++ [if Closes s then '\'' else '"'])

theorem requoteAfter_passedToken {c : Char} (hc : c ≠ '\\') (s : String) (rest : List Char) :
    ∃ before, requoteAfter (some c) (passedToken s ++ rest) =
      requotedToken s ++ requoteAfter before rest := by
  have opened : requoteAfter (some c) (passedToken s ++ rest) =
      '\'' :: (passedChars s.toList ++
        requoteAfter (passedChars s.toList).getLast? ('"' :: rest)) := by
    have kept := Kept.passedChars s.toList none ('"' :: rest)
    rw [Option.or_none] at kept
    simp [passedToken, requoteAfter, hc, kept]
  rw [opened, requotedToken]
  -- The closing quote is turned when the text left a character before it that is no backslash.
  by_cases closes : Closes s
  · refine ⟨none, ?_⟩
    have some_char : s.toList ≠ [] := fun empty => closes.1 (String.toList_eq_nil_iff.1 empty)
    have last : (passedChars s.toList).getLast? ≠ none := by
      simpa using passedChars_ne_nil some_char
    have plain : (passedChars s.toList).getLast? ≠ some '\\' :=
      fun backslash => closes.2 ((getLast?_passedChars _).1 backslash)
    simp [requoteAfter, closes, last, plain]
  · refine ⟨some '"', ?_⟩
    have unseen : ¬ ((passedChars s.toList).getLast? ≠ none ∧
        (passedChars s.toList).getLast? ≠ some '\\') := by
      rcases not_closes_cases closes with empty | ⟨cs, shape⟩
      · simp [empty]
      · have last : s.toList.getLast? = some '\\' := by simp [shape]
        exact fun both => both.2 ((getLast?_passedChars _).2 last)
    rw [requoteAfter, if_neg fun turned => unseen turned.2, if_neg closes]
    simp

namespace Json

variable {ls : List Symbol}

theorem escapeApostrophes_write (h : ∀ l ∈ ls, l.IsClean) :
    escapeApostrophes (write stringChars ls) = write passedToken ls := by
  induction ls with
  | nil => rfl
  | cons l ls ih =>
    obtain ⟨first, rest⟩ := List.forall_mem_cons.1 h
    rw [write_cons, write_cons, escapeApostrophes_append, ih rest]
    congr 1
    cases l with
    | outside c =>
      refine escapeApostrophes_of_not_mem fun member => first ?_
      rw [← List.mem_singleton.1 member]
      decide
    | text s =>
      have inner : escapeApostrophes (s.toList.flatMap escapedChar) = passedChars s.toList := by
        rw [escapeApostrophes, List.flatMap_assoc]
        rfl
      have split : stringChars s = ['"'] ++ (s.toList.flatMap escapedChar ++ ['"']) := rfl
      rw [Symbol.written, Symbol.written, split, escapeApostrophes_append, escapeApostrophes_append,
        inner]
      rfl

theorem requoteAfter_write (h : Tidy ls) (before : Option Char)
    (ready : ∀ s, ls.head? = some (.text s) → ∃ c, before = some c ∧ c ≠ '\\') :
    requoteAfter before (write passedToken ls) = write requotedToken ls := by
  induction ls generalizing before with
  | nil => rfl
  | cons l ls ih =>
    have tail : Tidy ls := ⟨fun m member => h.clean m (List.mem_cons_of_mem l member), h.apart.tail⟩
    cases l with
    | outside d =>
      have clean : d ∉ ['"', '\'', '\\'] := h.clean _ List.mem_cons_self
      simp only [List.mem_cons, List.not_mem_nil, or_false, not_or] at clean
      have rest := ih tail (some d) fun _ _ => ⟨d, rfl, clean.2.2⟩
      simp [Symbol.written, requoteAfter, clean.1, rest]
    | text s =>
      obtain ⟨c, rfl, hc⟩ := ready s rfl
      obtain ⟨after, step⟩ := requoteAfter_passedToken hc s (write passedToken ls)
      rw [write_cons, write_cons, Symbol.written, step, ih tail after]
      · rfl
      · intro u first
        exact absurd ⟨trivial, trivial⟩ ((List.isChain_cons.1 h.apart).1 _ first)

/-- Only a value that is a text itself begins with one. -/
theorem head?_symbols {v : Json} (h : ∀ s, v ≠ .str s) (s : String) :
    v.symbols.head? ≠ some (.text s) := by
  cases v with
  | str u => exact absurd rfl (h u)
  | bool b => cases b <;> simp [symbols]
  | _ => simp [symbols]

end Json

/-! ## The third pass -/

theorem unescapeQuotes_of_not_mem {cs : List Char} (h : '"' ∉ cs) : unescapeQuotes cs = cs := by
  fun_induction unescapeQuotes cs with
  | case1 => rfl
  | case2 c => rfl
  | case3 c d rest escaped ih => simp [escaped.2] at h
  | case4 c d rest kept ih => rw [ih fun member => h (List.mem_cons_of_mem c member)]

theorem unescapeQuotes_append {cs ds : List Char}
    (apart : cs.getLast? ≠ some '\\' ∨ ds.head? ≠ some '"') :
    unescapeQuotes (cs ++ ds) = unescapeQuotes cs ++ unescapeQuotes ds := by
  fun_induction unescapeQuotes cs with
  | case1 => rfl
  | case2 c =>
    cases ds with
    | nil => rfl
    | cons d ds =>
      have other : ¬ (c = '\\' ∧ d = '"') := by simpa [imp_iff_not_or] using apart
      rw [List.singleton_append, unescapeQuotes, if_neg other]
      rfl
  | case3 c d rest escaped ih =>
    have later : rest.getLast? = some '\\' → (c :: d :: rest).getLast? = some '\\' := by
      intro last
      simp [List.getLast?_cons, last]
    rw [List.cons_append, List.cons_append, unescapeQuotes, if_pos escaped,
      ih (apart.imp_left (mt later)), List.cons_append]
  | case4 c d rest kept ih =>
    have later : (d :: rest).getLast? = some '\\' → (c :: d :: rest).getLast? = some '\\' := by
      intro last
      simpa [List.getLast?_cons] using last
    have step := ih (apart.imp_left (mt later))
    rw [List.cons_append] at step
    rw [List.cons_append, List.cons_append, unescapeQuotes, if_neg kept, step, List.cons_append]

theorem unescapeQuotes_passedChar (c : Char) :
    unescapeQuotes (passedChar c) = definitionChar c := by
  rcases passedChar_cases c with rfl | rfl | ⟨-, same, none, -⟩
  · rfl
  · rfl
  · rw [same, unescapeQuotes_of_not_mem none]

theorem unescapeQuotes_passedChars (cs : List Char) :
    unescapeQuotes (passedChars cs) = cs.flatMap definitionChar := by
  induction cs with
  | nil => rfl
  | cons c cs ih =>
    have split : passedChars (c :: cs) = passedChar c ++ passedChars cs := rfl
    rw [split, unescapeQuotes_append (.inr (head?_passedChars cs)), unescapeQuotes_passedChar, ih,
      List.flatMap_cons]

/-- A text that the second pass finds no end of keeps a double quote there, and the third pass takes
its last backslash for an escape. -/
def writtenToken (s : String) : List Char :=
  if Closes s then apostrophized s
  else '\'' :: (s.toList.dropLast.flatMap definitionChar ++ if s = "" then ['"'] else ['\\', '"'])

theorem unescapeQuotes_cons {c : Char} (hc : c ≠ '\\') (cs : List Char) :
    unescapeQuotes (c :: cs) = c :: unescapeQuotes cs := by
  have split : unescapeQuotes ([c] ++ cs) = unescapeQuotes [c] ++ unescapeQuotes cs :=
    unescapeQuotes_append (.inl (by simpa using hc))
  exact split

theorem unescapeQuotes_requotedToken (s : String) :
    unescapeQuotes (requotedToken s) = writtenToken s := by
  rw [requotedToken, writtenToken, unescapeQuotes_cons (by decide)]
  by_cases closes : Closes s
  · rw [if_pos closes, if_pos closes, unescapeQuotes_append (.inr (by decide)),
      unescapeQuotes_passedChars]
    rfl
  · rw [if_neg closes, if_neg closes]
    rcases not_closes_cases closes with empty | ⟨cs, shape⟩
    · obtain rfl := String.toList_eq_nil_iff.1 empty
      rfl
    · have nonempty : s ≠ "" := by
        rintro rfl
        simp at shape
      have split : passedChars s.toList ++ ['"'] = passedChars cs ++ ['\\', '\\', '"'] := by
        rw [shape, passedChars_append, List.append_assoc]
        rfl
      rw [split, unescapeQuotes_append (.inr (by decide)), unescapeQuotes_passedChars, shape,
        List.dropLast_concat, if_neg nonempty]
      rfl

namespace Json

theorem unescapeQuotes_write {ls : List Symbol} (h : ∀ l ∈ ls, l.IsClean) :
    unescapeQuotes (write requotedToken ls) = write writtenToken ls := by
  induction ls with
  | nil => rfl
  | cons l ls ih =>
    obtain ⟨first, rest⟩ := List.forall_mem_cons.1 h
    rw [write_cons, write_cons, ← ih rest]
    cases l with
    | outside c =>
      refine unescapeQuotes_cons (fun backslash => first ?_) _
      rw [backslash]
      decide
    | text s =>
      have quoted : (requotedToken s).getLast? ≠ some '\\' := by
        rw [requotedToken, ← List.cons_append, List.getLast?_concat]
        split <;> simp
      rw [Symbol.written, unescapeQuotes_append (.inl quoted), unescapeQuotes_requotedToken]
      rfl

end Json

/-- What the three passes come to, for a value that is no text itself. -/
theorem definitionLiteral_eq_textWith {v : Json} (h : ∀ s, v ≠ .str s) :
    definitionLiteral v = v.textWith writtenToken := by
  have tidy := Json.tidy_symbols v
  rw [definitionLiteral, ← Json.write_symbols, Json.escapeApostrophes_write tidy.clean, requote_eq,
    Json.requoteAfter_write tidy none fun s first => absurd first (Json.head?_symbols h s),
    Json.unescapeQuotes_write tidy.clean, Json.textWith]

/-! ## Which texts are closed -/

theorem count_writtenToken (s : String) :
    (writtenToken s).count '\'' + (if Closes s then 0 else 1) = (apostrophized s).count '\'' := by
  rw [writtenToken, apostrophized]
  by_cases closes : Closes s
  · rw [if_pos closes, if_pos closes]
    rfl
  · rw [if_neg closes, if_neg closes]
    rcases not_closes_cases closes with empty | ⟨cs, shape⟩
    · obtain rfl := String.toList_eq_nil_iff.1 empty
      rfl
    · have nonempty : s ≠ "" := by
        rintro rfl
        simp at shape
      rw [if_neg nonempty, shape, List.dropLast_concat]
      simp [definitionChar, Json.escapedChar]

namespace Json

def Symbol.isUnclosed : Symbol → Bool
  | outside _ => false
  | text s => !decide (Closes s)

/-- Each text that is not closed lacks a single quote. -/
theorem count_write (ls : List Symbol) :
    (write writtenToken ls).count '\'' + ls.countP Symbol.isUnclosed =
      (write apostrophized ls).count '\'' := by
  induction ls with
  | nil => rfl
  | cons l ls ih =>
    rw [write_cons, write_cons, List.count_append, List.count_append, List.countP_cons, ← ih]
    cases l with
    | outside c =>
      rw [if_neg (by simp [Symbol.isUnclosed])]
      simp only [Symbol.written]
      omega
    | text s =>
      have token := count_writtenToken s
      have unclosed : (Symbol.text s).isUnclosed = true ↔ ¬ Closes s := by simp [Symbol.isUnclosed]
      simp only [Symbol.written, unclosed, ite_not]
      omega

theorem closes_of_write_eq {ls : List Symbol}
    (h : write writtenToken ls = write apostrophized ls) (s : String) (member : .text s ∈ ls) :
    Closes s := by
  have counted := count_write ls
  rw [h, Nat.add_eq_left, List.countP_eq_zero] at counted
  by_contra unclosed
  exact counted _ member (by simpa [Symbol.isUnclosed] using unclosed)

theorem write_congr {token token' : String → List Char} {ls : List Symbol}
    (h : ∀ s, .text s ∈ ls → token s = token' s) : write token ls = write token' ls := by
  refine List.flatMap_congr fun l member => ?_
  cases l with
  | outside c => rfl
  | text s => exact h s member

end Json

/-- Nothing stands before a value that is a text, and the second pass does not find its start. -/
theorem definitionLiteral_text (s : String) :
    definitionLiteral (.str s) ≠ (Json.str s).textWith apostrophized := by
  intro same
  have chars := congrArg String.toList same
  have start (cs : List Char) : unescapeQuotes (requote (escapeApostrophes ('"' :: cs))) =
      '"' :: unescapeQuotes (requoteAfter (some '"') (escapeApostrophes cs)) := by
    have first : escapeApostrophes ('"' :: cs) = '"' :: escapeApostrophes cs := rfl
    rw [first, requote_eq, requoteAfter, if_neg (by simp), unescapeQuotes_cons (by decide)]
  rw [definitionLiteral, Json.chars, Json.stringChars, start, Json.textWith, String.toList_ofList,
    String.toList_ofList] at chars
  simp [Json.symbols, Json.Symbol.written, apostrophized] at chars

/-- A value is written as it should be just when it is no text and each text in it is closed. -/
theorem definitionLiteral_eq_iff (v : Json) :
    definitionLiteral v = v.textWith apostrophized ↔
      (∀ s, v ≠ .str s) ∧ ∀ s, .text s ∈ v.symbols → s ≠ "" ∧ s.toList.getLast? ≠ some '\\' := by
  constructor
  · intro same
    have compound : ∀ s, v ≠ .str s := by
      rintro s rfl
      exact definitionLiteral_text s same
    refine ⟨compound, Json.closes_of_write_eq ?_⟩
    rw [definitionLiteral_eq_textWith compound] at same
    exact String.ofList_injective same
  · rintro ⟨compound, closes⟩
    rw [definitionLiteral_eq_textWith compound, Json.textWith, Json.textWith]
    congr 1
    exact Json.write_congr fun s member => if_pos (closes s member)

/-- An empty text is not closed, and one that ends in a backslash loses it. -/
theorem unclosed_texts :
    definitionLiteral (.obj [("note", .str ""), ("path", .str "C:\\")]) =
        "\x7b'note':'\",'path':'C:\\\"\x7d" ∧
      (Json.obj [("note", .str ""), ("path", .str "C:\\")]).textWith apostrophized =
        "\x7b'note':'','path':'C:\\\\'\x7d" ∧
      ¬ definitionLiteral (.obj [("note", .str ""), ("path", .str "C:\\")]) =
        (Json.obj [("note", .str ""), ("path", .str "C:\\")]).textWith apostrophized := by
  refine ⟨rfl, rfl, ?_⟩
  rw [definitionLiteral_eq_iff]
  rintro ⟨-, closes⟩
  exact (closes "" (by decide)).1 rfl

end CqlClient
