import Mathlib.Data.List.Basic
import Mathlib.Data.List.Chain

/-!
# Lexemes

A statement is read from left to right. Between two single or two double quotes lies a quoted
region, in which a quote written twice stands for itself; every character outside is a lexeme of its
own. `lex_spell_append` says that lexemes are read back from their spelling whatever follows, as
long as no two regions touch.
-/

namespace CqlClient

theorem mem_of_mem_intercalate {α : Type} {separator : List α} {xss : List (List α)} {x : α}
    (h : x ∈ separator.intercalate xss) : x ∈ separator ∨ ∃ xs ∈ xss, x ∈ xs := by
  induction xss with
  | nil => cases h
  | cons xs xss ih =>
    cases xss with
    | nil => exact .inr ⟨xs, List.mem_cons_self, by simpa using h⟩
    | cons ys xss =>
      rw [List.intercalate_cons_cons, List.append_assoc, List.mem_append, List.mem_append] at h
      rcases h with h | h | h
      · exact .inr ⟨xs, List.mem_cons_self, h⟩
      · exact .inl h
      · exact (ih h).imp_right fun ⟨zs, member, inside⟩ =>
          ⟨zs, List.mem_cons_of_mem xs member, inside⟩

theorem intercalate_of_append {α : Type} {P : List α → Prop} (nil : P [])
    (append : ∀ {xs ys : List α}, P xs → P ys → P (xs ++ ys)) {separator : List α}
    (h : P separator) {xss : List (List α)} (each : ∀ xs ∈ xss, P xs) :
    P (separator.intercalate xss) := by
  induction xss with
  | nil => exact nil
  | cons xs xss ih =>
    obtain ⟨first, rest⟩ := List.forall_mem_cons.1 each
    cases xss with
    | nil => simpa using first
    | cons ys xss =>
      rw [List.intercalate_cons_cons]
      exact append (append first h) (ih rest)

/-- A character outside every quoted region, or a region with its content. -/
inductive Lexeme where
  | char (c : Char)
  | quoted (quote : Char) (content : List Char)
  deriving DecidableEq

def IsQuote (c : Char) : Prop := c = '\'' ∨ c = '"'

instance (c : Char) : Decidable (IsQuote c) := inferInstanceAs (Decidable (_ ∨ _))

def Quoteless (cs : List Char) : Prop := ∀ c ∈ cs, ¬ IsQuote c

instance (cs : List Char) : Decidable (Quoteless cs) := List.decidableBAll _ cs

/-! ## Reading -/

/-- Where a reader stands; in `closing` it has met a quote that ends the region unless the same
quote follows. -/
inductive LexMode where
  | outside
  | inside (quote : Char) (seen : List Char)
  | closing (quote : Char) (seen : List Char)

namespace LexMode

def opened (c : Char) : LexMode × List Lexeme :=
  if IsQuote c then (.inside c [], []) else (.outside, [.char c])

/-- Reads a character; with the lexemes that are complete now. -/
def after : LexMode → Char → LexMode × List Lexeme
  | .outside, c => opened c
  | .inside q seen, c => if c = q then (.closing q seen, []) else (.inside q (seen ++ [c]), [])
  | .closing q seen, c =>
    if c = q then (.inside q (seen ++ [c]), [])
    else ((opened c).1, .quoted q seen :: (opened c).2)

end LexMode

/-- The lexemes of a text from some point on; none if it ends inside a region. -/
def lexFrom : LexMode → List Char → Option (List Lexeme)
  | .outside, [] => some []
  | .inside _ _, [] => none
  | .closing q seen, [] => some [.quoted q seen]
  | m, c :: rest => (lexFrom (m.after c).1 rest).map ((m.after c).2 ++ ·)

def lex (text : List Char) : Option (List Lexeme) := lexFrom .outside text

theorem lexFrom_cons (m : LexMode) (c : Char) (rest : List Char) :
    lexFrom m (c :: rest) = (lexFrom (m.after c).1 rest).map ((m.after c).2 ++ ·) := by
  cases m <;> rfl

/-! ## Spelling -/

def doubled (q : Char) (content : List Char) : List Char :=
  content.flatMap fun c => if c = q then [q, q] else [c]

theorem doubled_of_not_mem {q : Char} {content : List Char} (h : q ∉ content) :
    doubled q content = content := by
  induction content with
  | nil => rfl
  | cons c content ih =>
    have other : c ≠ q := fun same => h (same ▸ List.mem_cons_self)
    have rest := ih fun member => h (List.mem_cons_of_mem c member)
    simp only [doubled] at rest
    simp [doubled, other, rest]

def Lexeme.spelled : Lexeme → List Char
  | .char c => [c]
  | .quoted q content => q :: (doubled q content ++ [q])

def spell (ls : List Lexeme) : List Char := ls.flatMap Lexeme.spelled

@[simp] theorem spell_nil : spell [] = [] := rfl

@[simp] theorem spell_cons (l : Lexeme) (ls : List Lexeme) : spell (l :: ls) = l.spelled ++ spell ls :=
  rfl

@[simp] theorem spell_append (ls ms : List Lexeme) : spell (ls ++ ms) = spell ls ++ spell ms :=
  List.flatMap_append

/-- Characters that are no quotes, each a lexeme of its own. -/
def plain (cs : List Char) : List Lexeme := cs.map .char

def enclosed (ls : List Lexeme) : List Lexeme := .char '(' :: (ls ++ [.char ')'])

@[simp] theorem spell_plain (cs : List Char) : spell (plain cs) = cs := by
  induction cs with
  | nil => rfl
  | cons c cs ih =>
    rw [plain, List.map_cons, spell_cons, ← plain, ih]
    rfl

@[simp] theorem quoted_not_mem_plain {q : Char} {content cs : List Char} :
    .quoted q content ∉ plain cs := by
  simp [plain]

@[simp] theorem quoted_mem_enclosed {q : Char} {content : List Char} {ls : List Lexeme} :
    .quoted q content ∈ enclosed ls ↔ .quoted q content ∈ ls := by
  simp [enclosed]

theorem lexFrom_doubled (q : Char) (seen content rest : List Char) :
    lexFrom (.inside q seen) (doubled q content ++ rest) =
      lexFrom (.inside q (seen ++ content)) rest := by
  induction content generalizing seen with
  | nil => simp [doubled]
  | cons c content ih =>
    have later := ih (seen ++ [c])
    rw [List.append_assoc, List.singleton_append] at later
    rw [← later]
    by_cases same : c = q
    · simp [doubled, same, lexFrom_cons, LexMode.after]
    · simp [doubled, same, lexFrom_cons, LexMode.after]

theorem lexFrom_closing (q : Char) (content rest : List Char) (apart : rest.head? ≠ some q) :
    lexFrom (.closing q content) rest = (lex rest).map (.quoted q content :: ·) := by
  cases rest with
  | nil => rfl
  | cons c rest =>
    have other : c ≠ q := fun same => apart (by rw [same]; rfl)
    simp [lex, lexFrom_cons, LexMode.after, other, Option.map_map, Function.comp_def]

theorem lex_char (c : Char) (rest : List Char) (h : ¬ IsQuote c) :
    lex (c :: rest) = (lex rest).map (.char c :: ·) := by
  simp [lex, lexFrom_cons, LexMode.after, LexMode.opened, h]

theorem lex_quoted (q : Char) (content rest : List Char) (h : IsQuote q)
    (apart : rest.head? ≠ some q) :
    lex ((Lexeme.quoted q content).spelled ++ rest) = (lex rest).map (.quoted q content :: ·) := by
  rw [Lexeme.spelled, List.cons_append, List.append_assoc, List.singleton_append, lex, lexFrom_cons]
  simp only [LexMode.after, LexMode.opened, if_pos h, List.nil_append, Option.map_id']
  rw [lexFrom_doubled, lexFrom_cons, List.nil_append]
  simp only [LexMode.after, if_true, List.nil_append, Option.map_id']
  exact lexFrom_closing q content rest apart

/-! ## Proper lexemes -/

namespace Lexeme

/-- A quote never stands alone, and regions have quotes around them. -/
def IsProper : Lexeme → Prop
  | .char c => ¬ IsQuote c
  | .quoted q _ => IsQuote q

def IsRegion : Lexeme → Prop
  | .char _ => False
  | .quoted _ _ => True

/-- Two regions that touch would be read as one. -/
def Apart (l m : Lexeme) : Prop := ¬ (l.IsRegion ∧ m.IsRegion)

end Lexeme

structure Proper (ls : List Lexeme) : Prop where
  each : ∀ l ∈ ls, l.IsProper
  apart : ls.IsChain Lexeme.Apart

namespace Proper

theorem nil : Proper [] := ⟨by simp, .nil⟩

theorem region {q : Char} (h : IsQuote q) (content : List Char) : Proper [.quoted q content] :=
  ⟨by simpa [Lexeme.IsProper] using h, .singleton _⟩

theorem char_cons {c : Char} {ls : List Lexeme} (h : ¬ IsQuote c) (hs : Proper ls) :
    Proper (.char c :: ls) := by
  refine ⟨by simpa [Lexeme.IsProper, h] using hs.each, ?_⟩
  cases ls with
  | nil => exact .singleton _
  | cons l ls => exact .cons_cons (fun both => both.1) hs.apart

theorem append {ls ms : List Lexeme} (hs : Proper ls) (hm : Proper ms)
    (start : ∀ m, ms.head? = some m → ¬ m.IsRegion) : Proper (ls ++ ms) := by
  refine ⟨fun l member => ?_, ?_⟩
  · rcases List.mem_append.1 member with member | member
    · exact hs.each l member
    · exact hm.each l member
  · rw [List.isChain_append]
    exact ⟨hs.apart, hm.apart, fun l _ m first both => start m first both.2⟩

theorem plain_append {cs : List Char} {ls : List Lexeme} (h : Quoteless cs)
    (hs : Proper ls) : Proper (plain cs ++ ls) := by
  induction cs with
  | nil => exact hs
  | cons c cs ih =>
    exact char_cons (h c List.mem_cons_self) (ih fun d member => h d (List.mem_cons_of_mem c member))

theorem of_plain {cs : List Char} (h : Quoteless cs) : Proper (plain cs) := by
  simpa using plain_append h nil

theorem between {cs : List Char} {ls ms : List Lexeme} (some_char : cs ≠ [])
    (h : Quoteless cs) (hs : Proper ls) (hm : Proper ms) :
    Proper (ls ++ (plain cs ++ ms)) := by
  refine hs.append (plain_append h hm) fun m first => ?_
  cases cs with
  | nil => exact absurd rfl some_char
  | cons c cs =>
    obtain rfl : .char c = m := by simpa [plain] using first
    exact id

theorem intercalate {cs : List Char} {lss : List (List Lexeme)} (some_char : cs ≠ [])
    (h : Quoteless cs) (hs : ∀ ls ∈ lss, Proper ls) :
    Proper ((plain cs).intercalate lss) := by
  induction lss with
  | nil => exact nil
  | cons ls lss ih =>
    have first := hs ls List.mem_cons_self
    cases lss with
    | nil => simpa using first
    | cons ms lss =>
      rw [List.intercalate_cons_cons, List.append_assoc]
      exact between some_char h first (ih fun ks member => hs ks (List.mem_cons_of_mem ls member))

theorem enclosed {ls : List Lexeme} (hs : Proper ls) : Proper (enclosed ls) := by
  refine char_cons (by decide) (hs.append (char_cons (by decide) nil) fun m first => ?_)
  obtain rfl : .char ')' = m := by simpa using first
  exact id

end Proper

theorem lex_spell_append {ls : List Lexeme} (h : Proper ls) (rest : List Char)
    (apart : ∀ c, rest.head? = some c → ¬ IsQuote c) :
    lex (spell ls ++ rest) = (lex rest).map (ls ++ ·) := by
  induction ls with
  | nil => simp
  | cons l ls ih =>
    have tail : Proper ls :=
      ⟨fun m member => h.each m (List.mem_cons_of_mem l member), h.apart.tail⟩
    have proper := h.each l List.mem_cons_self
    rw [spell_cons, List.append_assoc]
    cases l with
    | char c =>
      rw [Lexeme.spelled, List.singleton_append, lex_char c _ proper, ih tail, Option.map_map]
      rfl
    | quoted q content =>
      rw [lex_quoted q content _ proper, ih tail, Option.map_map]
      · rfl
      · intro touches
        cases ls with
        | nil => exact apart q (by simpa using touches) proper
        | cons m ls =>
          cases m with
          | char c =>
            obtain rfl : c = q := by simpa [Lexeme.spelled] using touches
            exact h.each (.char c) (by simp) proper
          | quoted q' content' =>
            have both := List.isChain_cons_cons.1 h.apart
            exact both.1 ⟨trivial, trivial⟩

theorem lex_spell {ls : List Lexeme} (h : Proper ls) : lex (spell ls) = some ls := by
  have whole := lex_spell_append h [] (by simp)
  simpa [lex, lexFrom] using whole

/-! ## Occurrences of a text -/

theorem infix_or_infix_of_not_mem {α : Type} {w xs ys : List α} {q : α} (absent : q ∉ w)
    (h : w <:+: xs ++ q :: ys) : w <:+: xs ∨ w <:+: ys := by
  have front {v : List α} (sub : v ⊆ w) (start : v <+: q :: ys) : v = [] := by
    rcases List.prefix_cons_iff.1 start with rfl | ⟨v, rfl, -⟩
    · rfl
    · exact absurd (sub List.mem_cons_self) absent
  rcases List.infix_append_iff.1 h with left | right | ⟨v, v', rfl, tail, start⟩
  · exact .inl left
  · rcases List.infix_cons_iff.1 right with start | right
    · rw [front (List.Subset.refl w) start]
      exact .inl List.nil_infix
    · exact .inr right
  · rw [front (List.subset_append_right v v') start, List.append_nil]
    exact .inl tail.isInfix

theorem prefix_of_prefix_doubled {q : Char} {w content : List Char} (absent : q ∉ w)
    (h : w <+: doubled q content) : w <+: content := by
  induction content generalizing w with
  | nil => exact h
  | cons c content ih =>
    cases w with
    | nil => exact List.nil_prefix
    | cons d w =>
      have other : d ≠ q := fun same => absent (same ▸ List.mem_cons_self)
      have later : q ∉ w := fun member => absent (List.mem_cons_of_mem d member)
      rw [doubled, List.flatMap_cons, ← doubled] at h
      split at h
      · exact absurd (List.cons_prefix_cons.1 h).1 other
      · obtain ⟨rfl, rest⟩ := List.cons_prefix_cons.1 h
        exact List.cons_prefix_cons.2 ⟨rfl, ih later rest⟩

theorem infix_of_infix_doubled {q : Char} {w content : List Char} (absent : q ∉ w)
    (h : w <:+: doubled q content) : w <:+: content := by
  induction content with
  | nil => exact h
  | cons c content ih =>
    rw [doubled, List.flatMap_cons, ← doubled] at h
    split at h
    · have twice : w <:+: [] ++ q :: ([] ++ q :: doubled q content) := h
      rcases infix_or_infix_of_not_mem absent twice with none | h
      · exact none.trans List.nil_infix
      · rcases infix_or_infix_of_not_mem absent h with none | h
        · exact none.trans List.nil_infix
        · exact List.infix_cons (ih h)
    · rename_i other
      have once : w <:+: c :: doubled q content := h
      rcases List.infix_cons_iff.1 once with start | h
      · have whole : w <+: doubled q (c :: content) := by
          rwa [doubled, List.flatMap_cons, if_neg other]
        exact (prefix_of_prefix_doubled absent whole).isInfix
      · exact List.infix_cons (ih h)

theorem prefix_of_prefix_spell {w : List Char} {ls : List Lexeme} (each : ∀ l ∈ ls, l.IsProper)
    (quoteless : Quoteless w) (h : w <+: spell ls) : plain w <+: ls := by
  induction w generalizing ls with
  | nil => exact List.nil_prefix
  | cons c w ih =>
    cases ls with
    | nil => cases List.prefix_nil.1 h
    | cons l ls =>
      obtain ⟨first, later⟩ := List.forall_mem_cons.1 each
      obtain ⟨outside, rest⟩ := List.forall_mem_cons.1 quoteless
      cases l with
      | char d =>
        obtain ⟨rfl, start⟩ := List.cons_prefix_cons.1 h
        exact List.cons_prefix_cons.2 ⟨rfl, ih later rest start⟩
      | quoted q content =>
        obtain ⟨rfl, -⟩ := List.cons_prefix_cons.1 h
        exact absurd first outside

/-- A text without quotes occurs outside all regions or within one. -/
theorem infix_of_infix_spell {w : List Char} {ls : List Lexeme} (each : ∀ l ∈ ls, l.IsProper)
    (quoteless : Quoteless w) (h : w <:+: spell ls) :
    plain w <:+: ls ∨ ∃ q content, .quoted q content ∈ ls ∧ w <:+: content := by
  induction ls with
  | nil =>
    obtain rfl := List.infix_nil.1 h
    exact .inl List.nil_infix
  | cons l ls ih =>
    obtain ⟨first, later⟩ := List.forall_mem_cons.1 each
    have further (h : w <:+: spell ls) :
        plain w <:+: l :: ls ∨ ∃ q content, .quoted q content ∈ l :: ls ∧ w <:+: content := by
      rcases ih later h with outside | ⟨q, content, member, inside⟩
      · exact .inl (List.infix_cons outside)
      · exact .inr ⟨q, content, List.mem_cons_of_mem l member, inside⟩
    cases l with
    | char c =>
      rcases List.infix_cons_iff.1 h with start | h
      · exact .inl (prefix_of_prefix_spell each quoteless start).isInfix
      · exact further h
    | quoted q content =>
      have absent : q ∉ w := fun member => quoteless q member first
      have spelled : w <:+: [] ++ q :: (doubled q content ++ q :: spell ls) := by
        simpa [Lexeme.spelled] using h
      rcases infix_or_infix_of_not_mem absent spelled with none | h
      · exact further (none.trans List.nil_infix)
      · rcases infix_or_infix_of_not_mem absent h with inside | h
        · exact .inr ⟨q, content, List.mem_cons_self, infix_of_infix_doubled absent inside⟩
        · exact further h

/-! ## Spelled texts -/

theorem spell_intercalate (cs : List Char) (lss : List (List Lexeme)) :
    spell ((plain cs).intercalate lss) = cs.intercalate (lss.map spell) := by
  induction lss with
  | nil => rfl
  | cons ls lss ih =>
    cases lss with
    | nil => simp
    | cons ms lss => simp [List.intercalate_cons_cons, ih]

/-- The text is written with these lexemes, and they are read back from it. -/
structure Spelled (text : String) (ls : List Lexeme) : Prop where
  toList_eq : text.toList = spell ls
  proper : Proper ls

namespace Spelled

variable {t u : String} {ls ms : List Lexeme}

theorem lex_eq (h : Spelled t ls) : lex t.toList = some ls := by
  rw [h.toList_eq]
  exact lex_spell h.proper

theorem of_quoteless (h : Quoteless t.toList) : Spelled t (plain t.toList) :=
  ⟨(spell_plain _).symm, .of_plain h⟩

theorem append (ht : Spelled t ls) (hu : Spelled u ms)
    (start : ∀ m, ms.head? = some m → ¬ m.IsRegion) : Spelled (t ++ u) (ls ++ ms) :=
  ⟨by rw [String.toList_append, spell_append, ht.toList_eq, hu.toList_eq],
    ht.proper.append hu.proper start⟩

theorem prepend {s : String} (h : Quoteless s.toList) (ht : Spelled t ls) :
    Spelled (s ++ t) (plain s.toList ++ ls) :=
  ⟨by rw [String.toList_append, spell_append, spell_plain, ht.toList_eq], ht.proper.plain_append h⟩

theorem between {s : String} (some_char : s.toList ≠ []) (h : Quoteless s.toList) (ht : Spelled t ls)
    (hu : Spelled u ms) : Spelled (t ++ (s ++ u)) (ls ++ (plain s.toList ++ ms)) :=
  ⟨by simp only [String.toList_append, spell_append, spell_plain, ht.toList_eq, hu.toList_eq],
    .between some_char h ht.proper hu.proper⟩

theorem intercalate {s : String} {ts : List String} {lss : List (List Lexeme)}
    (some_char : s.toList ≠ []) (h : Quoteless s.toList) (each : List.Forall₂ Spelled ts lss) :
    Spelled (s.intercalate ts) ((plain s.toList).intercalate lss) := by
  have both : ts.map String.toList = lss.map spell ∧ ∀ ls ∈ lss, Proper ls := by
    induction each with
    | nil => simp
    | cons head _ ih =>
      rw [List.map_cons, List.map_cons, head.toList_eq, ih.1]
      exact ⟨rfl, List.forall_mem_cons.2 ⟨head.proper, ih.2⟩⟩
  refine ⟨?_, .intercalate some_char h both.2⟩
  rw [String.toList_intercalate, spell_intercalate, both.1]

end Spelled

end CqlClient
