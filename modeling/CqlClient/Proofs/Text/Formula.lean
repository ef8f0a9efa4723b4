import CqlClient.Proofs.Text.Lexeme

/-!
# Reading filters

The text of a filter is read with the usual precedence. Quoted regions are opaque; parentheses at the
start of an operand group, others belong to the operand; between operands stand the words `AND`,
which binds tighter, and `OR`. What is left are leaves, of which the reader only keeps the text.

The reader first splits the text into tokens (`scan`), and then runs over them with a stack of open
groups (`Reader`).
-/

namespace CqlClient

inductive Connective where
  | and
  | or
  deriving DecidableEq

namespace Connective

def eval : Connective → Bool → Bool → Bool
  | .and, p, q => p && q
  | .or, p, q => p || q

def unit : Connective → Bool
  | .and => true
  | .or => false

theorem eval_assoc (c : Connective) (p q r : Bool) :
    c.eval (c.eval p q) r = c.eval p (c.eval q r) := by
  cases c with
  | and => exact Bool.and_assoc p q r
  | or => exact Bool.or_assoc p q r

theorem eval_unit (c : Connective) (p : Bool) : c.eval p c.unit = p := by
  cases c with
  | and => exact Bool.and_true p
  | or => exact Bool.or_false p

end Connective

inductive Formula (α : Type) where
  | leaf (a : α)
  | join (c : Connective) (left right : Formula α)
  deriving DecidableEq

namespace Formula

variable {α β γ : Type}

def map (g : α → β) : Formula α → Formula β
  | leaf a => leaf (g a)
  | join c left right => join c (left.map g) (right.map g)

def eval (v : α → Bool) : Formula α → Bool
  | leaf a => v a
  | join c left right => c.eval (left.eval v) (right.eval v)

def chain (c : Connective) (x : Formula α) (xs : List (Formula α)) : Formula α :=
  xs.foldl (join c) x

theorem map_chain (g : α → β) (c : Connective) (x : Formula α) (xs : List (Formula α)) :
    (chain c x xs).map g = chain c (x.map g) (xs.map (map g)) := by
  induction xs generalizing x with
  | nil => rfl
  | cons y xs ih => exact ih (join c x y)

theorem eval_chain (v : α → Bool) (c : Connective) (x : Formula α) (xs : List (Formula α)) :
    (chain c x xs).eval v = (xs.map (eval v)).foldl c.eval (x.eval v) := by
  induction xs generalizing x with
  | nil => rfl
  | cons y xs ih => exact ih (join c x y)

end Formula

/-! ## Tokens -/

inductive FilterToken where
  | leaf (text : String)
  | connective (c : Connective)
  | opening
  | closing
  deriving DecidableEq

def connective? (word : List Lexeme) : Option Connective :=
  if word = plain ['A', 'N', 'D'] then some .and
  else if word = plain ['O', 'R'] then some .or
  else none

def phrase (words : List (List Lexeme)) : List FilterToken :=
  if words = [] then []
  else [.leaf (String.ofList (spell ((plain [' ']).intercalate words)))]

def ended (words : List (List Lexeme)) (word : List Lexeme) : List FilterToken :=
  match connective? word with
  | some c => phrase words ++ [.connective c]
  | none => phrase (if word = [] then words else words ++ [word])

/-- Splits lexemes into tokens; with the words of an operand so far, the word being read and the
parentheses open in it. -/
def scan (depth : Nat) (words : List (List Lexeme)) (word : List Lexeme) :
    List Lexeme → List FilterToken
  | [] => ended words word
  | l :: rest =>
    match depth with
    | 0 =>
      if l = .char ' ' then
        if connective? word = none then
          scan 0 (if word = [] then words else words ++ [word]) [] rest
        else ended words word ++ scan 0 [] [] rest
      else if l = .char '(' then
        if words = [] ∧ word = [] then .opening :: scan 0 [] [] rest
        else scan 1 words (word ++ [l]) rest
      else if l = .char ')' then ended words word ++ .closing :: scan 0 [] [] rest
      else scan 0 words (word ++ [l]) rest
    | depth + 1 =>
      if l = .char '(' then scan (depth + 2) words (word ++ [l]) rest
      else if l = .char ')' then scan depth words (word ++ [l]) rest
      else scan (depth + 1) words (word ++ [l]) rest

/-! ## Reader -/

namespace Connective

def attach (c : Connective) : Option (Formula String) → Formula String → Formula String
  | none, x => x
  | some y, x => .join c y x

end Connective

/-- What a group holds before the operand being read. -/
structure Frame where
  sum : Option (Formula String) := none
  product : Option (Formula String) := none

namespace Frame

def total (frame : Frame) (x : Formula String) : Formula String :=
  Connective.or.attach frame.sum (Connective.and.attach frame.product x)

def after (frame : Frame) (x : Formula String) : Connective → Frame
  | .and => { frame with product := some (Connective.and.attach frame.product x) }
  | .or => { sum := some (frame.total x) }

end Frame

structure Reader where
  operand : Option (Formula String) := none
  frame : Frame := {}
  outer : List Frame := []

namespace Reader

def after : Reader → FilterToken → Option Reader
  | ⟨none, frame, outer⟩, .leaf text => some ⟨some (.leaf text), frame, outer⟩
  | ⟨none, frame, outer⟩, .opening => some ⟨none, {}, frame :: outer⟩
  | ⟨some x, frame, outer⟩, .connective c => some ⟨none, frame.after x c, outer⟩
  | ⟨some x, frame, frame' :: outer⟩, .closing => some ⟨some (frame.total x), frame', outer⟩
  | _, _ => none

def finish : Reader → Option (Formula String)
  | ⟨some x, frame, []⟩ => some (frame.total x)
  | _ => none

def run (r : Reader) (tokens : List FilterToken) : Option Reader := tokens.foldlM after r

theorem run_append (r : Reader) (ts us : List FilterToken) :
    r.run (ts ++ us) = (r.run ts).bind (run · us) :=
  List.foldlM_append

theorem run_cons (r : Reader) (t : FilterToken) (ts : List FilterToken) :
    r.run (t :: ts) = (r.after t).bind (run · ts) :=
  List.foldlM_cons

end Reader

/-- The formula of a text; its leaves are the texts between connectives. -/
def readFormula (text : String) : Option (Formula String) := do
  let ls ← lex text.toList
  let reader ← Reader.run {} (scan 0 [] [] ls)
  reader.finish

/-! ## Running over tokens -/

def Parses (tokens : List FilterToken) (x : Formula String) : Prop :=
  ∀ frame outer, Reader.run ⟨none, frame, outer⟩ tokens = some ⟨some x, frame, outer⟩

theorem parses_leaf (text : String) : Parses [.leaf text] (.leaf text) := fun _ _ => rfl

namespace Connective

/-- A group in which only this connective has been met. -/
def frame (c : Connective) (p : Option (Formula String)) : Frame :=
  match c with
  | .and => { product := p }
  | .or => { sum := p }

theorem total_frame (c : Connective) (p : Option (Formula String)) (x : Formula String) :
    (c.frame p).total x = c.attach p x := by
  cases c <;> cases p <;> rfl

theorem after_frame (c : Connective) (p : Option (Formula String)) (x : Formula String) :
    (c.frame p).after x c = c.frame (some (c.attach p x)) := by
  cases c with
  | and => rfl
  | or => rw [← total_frame]; rfl

end Connective

section Joined

variable {tokens : List FilterToken} {tokenss : List (List FilterToken)} {x : Formula String}
  {xs : List (Formula String)}

theorem run_joined (c : Connective) (first : Parses tokens x) (rest : List.Forall₂ Parses tokenss xs)
    (p : Option (Formula String)) (outer : List Frame) :
    ∃ q y, Reader.run ⟨none, c.frame p, outer⟩ ([.connective c].intercalate (tokens :: tokenss)) =
        some ⟨some y, c.frame q, outer⟩ ∧
      c.attach q y = .chain c (c.attach p x) xs := by
  induction rest generalizing tokens x p with
  | nil => exact ⟨p, x, by simpa using first _ _, rfl⟩
  | cons second _ ih =>
    obtain ⟨q, y, run, eq⟩ := ih second (some (c.attach p x))
    refine ⟨q, y, ?_, eq⟩
    rw [List.intercalate_cons_cons, List.append_assoc, Reader.run_append, first, Option.bind_some,
      List.singleton_append, Reader.run_cons, Reader.after, Connective.after_frame, Option.bind_some,
      run]

theorem parses_group (c : Connective) (first : Parses tokens x)
    (rest : List.Forall₂ Parses tokenss xs) :
    Parses (.opening :: ([.connective c].intercalate (tokens :: tokenss) ++ [.closing]))
      (.chain c x xs) := by
  intro frame outer
  have empty : ({} : Frame) = c.frame none := by cases c <;> rfl
  obtain ⟨q, y, run, eq⟩ := run_joined c first rest none (frame :: outer)
  rw [Reader.run_cons, Reader.after, Option.bind_some, Reader.run_append, empty, run, Option.bind_some,
    Reader.run_cons, Reader.after, Connective.total_frame, eq]
  rfl

theorem finish_joined (c : Connective) (first : Parses tokens x)
    (rest : List.Forall₂ Parses tokenss xs) :
    (Reader.run {} ([.connective c].intercalate (tokens :: tokenss))).bind Reader.finish =
      some (.chain c x xs) := by
  have empty : ({} : Reader) = ⟨none, c.frame none, []⟩ := by cases c <;> rfl
  obtain ⟨q, y, run, eq⟩ := run_joined c first rest none []
  rw [empty, run, Option.bind_some, Reader.finish, Connective.total_frame, eq]
  rfl

theorem Parses.finish (h : Parses tokens x) :
    (Reader.run {} tokens).bind Reader.finish = some x := by
  rw [h {} []]
  rfl

end Joined

/-! ## Scanning words -/

theorem connective?_eq_none {ls : List Lexeme} {l : Lexeme} (member : l ∈ ls)
    (other : l ∉ plain ['A', 'N', 'D', 'O', 'R']) : connective? ls = none := by
  have differs {cs : List Char} (sub : plain cs ⊆ plain ['A', 'N', 'D', 'O', 'R']) :
      ls ≠ plain cs := by
    rintro rfl
    exact other (sub member)
  rw [connective?, if_neg (differs (by decide)), if_neg (differs (by decide))]

/-- Lexemes that neither end a word nor open or close parentheses. -/
def Solid (ls : List Lexeme) : Prop := ∀ l ∈ ls, l ∉ plain [' ', '(', ')']

instance (ls : List Lexeme) : Decidable (Solid ls) := List.decidableBAll _ ls

theorem scan_solid {ls : List Lexeme} (h : Solid ls) (words : List (List Lexeme))
    (word rest : List Lexeme) : scan 0 words word (ls ++ rest) = scan 0 words (word ++ ls) rest := by
  induction ls generalizing word with
  | nil => simp
  | cons l ls ih =>
    obtain ⟨first, later⟩ := List.forall_mem_cons.1 h
    simp only [plain, List.map_cons, List.map_nil, List.mem_cons, List.not_mem_nil, or_false, not_or]
      at first
    rw [List.cons_append, scan, if_neg first.1, if_neg first.2.1, if_neg first.2.2, ih later,
      List.append_assoc, List.singleton_append]

/-- Inside parentheses the lexemes belong to the word, and their own parentheses are closed. -/
def Nested (ls : List Lexeme) : Prop :=
  ∀ depth words word rest,
    scan (depth + 1) words word (ls ++ rest) = scan (depth + 1) words (word ++ ls) rest

namespace Nested

theorem append {ls ms : List Lexeme} (hs : Nested ls) (hm : Nested ms) : Nested (ls ++ ms) := by
  intro depth words word rest
  rw [List.append_assoc, hs, hm, List.append_assoc]

theorem of_not_mem {ls : List Lexeme} (opening : .char '(' ∉ ls) (closing : .char ')' ∉ ls) :
    Nested ls := by
  intro depth words word rest
  induction ls generalizing word with
  | nil => simp
  | cons l ls ih =>
    rw [List.mem_cons, not_or] at opening closing
    rw [List.cons_append, scan, if_neg (Ne.symm opening.1), if_neg (Ne.symm closing.1),
      ih opening.2 closing.2, List.append_assoc, List.singleton_append]

theorem enclosed {ls : List Lexeme} (h : Nested ls) : Nested (enclosed ls) := by
  intro depth words word rest
  rw [CqlClient.enclosed, List.cons_append, List.append_assoc, scan, if_pos rfl, h,
    List.singleton_append, scan, if_neg (by decide), if_pos rfl]
  simp

end Nested

theorem Solid.nested {ls : List Lexeme} (h : Solid ls) : Nested ls :=
  .of_not_mem (fun member => h _ member (by decide)) fun member => h _ member (by decide)

theorem scan_enclosed {ls : List Lexeme} (h : Nested ls) {words : List (List Lexeme)}
    {word : List Lexeme} (started : ¬ (words = [] ∧ word = [])) (rest : List Lexeme) :
    scan 0 words word (enclosed ls ++ rest) = scan 0 words (word ++ enclosed ls) rest := by
  rw [enclosed, List.cons_append, List.append_assoc, scan, if_neg (by decide), if_pos rfl,
    if_neg started, h, List.singleton_append, scan, if_neg (by decide), if_pos rfl]
  simp

structure IsWord (ls : List Lexeme) : Prop where
  nonempty : ls ≠ []
  connective?_eq : connective? ls = none
  scan_eq : ∀ words rest, scan 0 words [] (ls ++ rest) = scan 0 words ls rest

theorem IsWord.of_solid {ls : List Lexeme} (solid : Solid ls) (nonempty : ls ≠ [])
    (eq : connective? ls = none) : IsWord ls :=
  ⟨nonempty, eq, fun words rest => by rw [scan_solid solid, List.nil_append]⟩

theorem IsWord.applied {function ls : List Lexeme} (solid : Solid function)
    (named : function ≠ []) (h : Nested ls) : IsWord (function ++ enclosed ls) := by
  refine ⟨by simp [named], connective?_eq_none (l := .char '(') (by simp [enclosed]) (by decide), ?_⟩
  intro words rest
  have started : ¬ (words = [] ∧ function = []) := fun both => named both.2
  rw [List.append_assoc, scan_solid solid, List.nil_append, scan_enclosed h started]

theorem IsWord.scan_blank {ls : List Lexeme} (h : IsWord ls) (words : List (List Lexeme))
    (rest : List Lexeme) :
    scan 0 words [] (ls ++ .char ' ' :: rest) = scan 0 (words ++ [ls]) [] rest := by
  rw [h.scan_eq, scan, if_pos rfl, if_pos h.connective?_eq, if_neg h.nonempty]

/-! ## Scanning operands -/

/-- The lexemes are read as these tokens, whatever follows: all but the tokens of the last word are
known at their end. -/
def ReadsAs (ls : List Lexeme) (tokens : List FilterToken) : Prop :=
  ∃ before words word, (∀ rest, scan 0 [] [] (ls ++ rest) = before ++ scan 0 words word rest) ∧
    connective? word = none ∧ (word = [] → words = []) ∧ tokens = before ++ ended words word

namespace Connective

def word : Connective → List Lexeme
  | .and => plain ['A', 'N', 'D']
  | .or => plain ['O', 'R']

def lexemes (c : Connective) : List Lexeme := .char ' ' :: (c.word ++ [.char ' '])

theorem connective?_word (c : Connective) : connective? c.word = some c := by cases c <;> decide

theorem solid_word (c : Connective) : Solid c.word := by cases c <;> decide

end Connective

theorem scan_connective {words : List (List Lexeme)} {word : List Lexeme}
    (other : connective? word = none) (c : Connective) (rest : List Lexeme) :
    scan 0 words word (c.lexemes ++ rest) =
      ended words word ++ .connective c :: scan 0 [] [] rest := by
  have complete : ended words word = phrase (if word = [] then words else words ++ [word]) := by
    rw [ended, other]
  have known : connective? c.word ≠ none := by simp [c.connective?_word]
  rw [Connective.lexemes, List.cons_append, scan, if_pos rfl, if_pos other, List.append_assoc,
    scan_solid c.solid_word, List.nil_append, List.singleton_append, scan, if_pos rfl, if_neg known,
    ended, c.connective?_word, complete]
  simp

namespace ReadsAs

variable {ls ms : List Lexeme} {tokens us : List FilterToken}

theorem scan_eq (h : ReadsAs ls tokens) : scan 0 [] [] ls = tokens := by
  obtain ⟨before, words, word, read, -, -, rfl⟩ := h
  simpa [scan] using read []

theorem join (c : Connective) (h : ReadsAs ls tokens) (h' : ReadsAs ms us) :
    ReadsAs (ls ++ (c.lexemes ++ ms)) (tokens ++ .connective c :: us) := by
  obtain ⟨before, words, word, read, other, -, rfl⟩ := h
  obtain ⟨before', words', word', read', other', first, rfl⟩ := h'
  refine ⟨before ++ (ended words word ++ .connective c :: before'), words', word', fun rest => ?_,
    other', first, by simp⟩
  rw [List.append_assoc, List.append_assoc, read, scan_connective other, read']
  simp

theorem joined (c : Connective) {lss : List (List Lexeme)} {uss : List (List FilterToken)}
    (h : ReadsAs ls tokens) (rest : List.Forall₂ ReadsAs lss uss) :
    ReadsAs (c.lexemes.intercalate (ls :: lss)) ([.connective c].intercalate (tokens :: uss)) := by
  induction rest generalizing ls tokens with
  | nil => simpa using h
  | cons head _ ih =>
    rw [List.intercalate_cons_cons, List.intercalate_cons_cons, List.append_assoc, List.append_assoc]
    exact h.join c (ih head)

theorem group (h : ReadsAs ls tokens) :
    ReadsAs (enclosed ls) (.opening :: (tokens ++ [.closing])) := by
  obtain ⟨before, words, word, read, other, -, rfl⟩ := h
  refine ⟨.opening :: (before ++ ended words word ++ [.closing]), [], [], fun rest => ?_, rfl,
    fun _ => rfl, by simp [ended, phrase, connective?, plain]⟩
  rw [enclosed, List.cons_append, List.append_assoc, scan, if_neg (by decide), if_pos rfl,
    if_pos ⟨rfl, rfl⟩, read, List.singleton_append, scan, if_neg (by decide), if_neg (by decide),
    if_pos rfl]
  simp

theorem of_words {last : List Lexeme} (hl : IsWord ls) (hm : IsWord ms) (nonempty : last ≠ [])
    (other : connective? last = none)
    (read : ∀ rest, scan 0 [ls, ms] [] (last ++ rest) = scan 0 [ls, ms] last rest) :
    ReadsAs (ls ++ .char ' ' :: (ms ++ .char ' ' :: last))
      [.leaf (String.ofList (spell (ls ++ .char ' ' :: (ms ++ .char ' ' :: last))))] := by
  refine ⟨[], [ls, ms], last, fun rest => ?_, other, fun none => absurd none nonempty, ?_⟩
  · rw [List.append_assoc, List.cons_append, List.append_assoc, List.cons_append, hl.scan_blank,
      List.nil_append, hm.scan_blank, List.singleton_append, read, List.nil_append]
  · rw [ended, other]
    simp [phrase, nonempty, List.intercalate_cons_cons, plain]

end ReadsAs

end CqlClient
