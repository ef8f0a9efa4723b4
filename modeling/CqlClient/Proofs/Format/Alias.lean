import CqlClient.Format.Query
import CqlClient.Proofs.Format.Slots

/-!
# Aliases of fields

A field that repeats itself around `AS` is written once. The repetition is looked for in the text of
the field, so a literal that holds `AS` between blanks can be taken for an alias.
`formatField_eq_ok_iff` says for which fields that happens.
-/

namespace CqlClient

/-! ## The split at the last alias -/

/-- The text is `a`, a blank, `AS`, a blank and `b`, with no line break in `a` or `b`. -/
def SplitsInto (cs a b : List Char) : Prop :=
  ∃ c d, Text.isBlank c ∧ Text.isBlank d ∧ cs = a ++ c :: 'A' :: 'S' :: d :: b ∧
    '\n' ∉ a ∧ '\n' ∉ b

/-- The split that `splitAtAlias` looks for. -/
def IsLastSplit (cs a b : List Char) : Prop :=
  SplitsInto cs a b ∧ ∀ a' b', SplitsInto cs a' b' → a'.length ≤ a.length

theorem splitsInto_cons {c : Char} {rest a b : List Char} :
    SplitsInto (c :: rest) a b ↔
      (a = [] ∧ Text.isBlank c ∧ '\n' ∉ b ∧ ∃ d, Text.isBlank d ∧ rest = 'A' :: 'S' :: d :: b) ∨
      (c ≠ '\n' ∧ ∃ a', a = c :: a' ∧ SplitsInto rest a' b) := by
  constructor
  · rintro ⟨c', d, first, last, eq, front, back⟩
    cases a with
    | nil =>
      obtain ⟨rfl, rfl⟩ := List.cons_eq_cons.1 eq
      exact .inl ⟨rfl, first, back, d, last, rfl⟩
    | cons c'' a =>
      obtain ⟨rfl, rfl⟩ := List.cons_eq_cons.1 eq
      rw [List.mem_cons, not_or] at front
      exact .inr ⟨Ne.symm front.1, a, rfl, c', d, first, last, rfl, front.2, back⟩
  · rintro (⟨rfl, first, back, d, last, rfl⟩ | ⟨other, a', rfl, c', d, first, last, rfl, front, back⟩)
    · exact ⟨c, d, first, last, rfl, by simp, back⟩
    · refine ⟨c', d, first, last, rfl, ?_, back⟩
      rw [List.mem_cons, not_or]
      exact ⟨other.symm, front⟩

theorem not_splitsInto_nil {a b : List Char} : ¬ SplitsInto [] a b := by
  rintro ⟨c, d, -, -, eq, -⟩
  cases a <;> cases eq

theorem SplitsInto.eq_of_length {cs a b a' b' : List Char} (h : SplitsInto cs a b)
    (h' : SplitsInto cs a' b') (same : a.length = a'.length) : a = a' ∧ b = b' := by
  obtain ⟨c, d, -, -, rfl, -⟩ := h
  obtain ⟨c', d', -, -, eq, -⟩ := h'
  obtain ⟨rfl, rest⟩ := List.append_inj eq same
  simp only [List.cons.injEq] at rest
  exact ⟨rfl, rest.2.2.2.2⟩

theorem IsLastSplit.unique {cs a b a' b' : List Char} (h : IsLastSplit cs a b)
    (h' : IsLastSplit cs a' b') : a = a' ∧ b = b' :=
  h.1.eq_of_length h'.1 (Nat.le_antisymm (h'.2 a b h.1) (h.2 a' b' h'.1))

theorem splitAtAlias_spec (cs : List Char) :
    match splitAtAlias cs with
    | some (a, b) => IsLastSplit cs a b
    | none => ∀ a b, ¬ SplitsInto cs a b := by
  induction cs with
  | nil => exact fun a b => not_splitsInto_nil
  | cons c rest ih =>
    rw [splitAtAlias.eq_def]
    dsimp only
    cases later : (if c = '\n' then none else splitAtAlias rest) with
    | some split =>
      obtain ⟨a, b⟩ := split
      obtain ⟨other, found⟩ : c ≠ '\n' ∧ splitAtAlias rest = some (a, b) := by
        split at later
        · cases later
        · rename_i other
          exact ⟨other, later⟩
      rw [found] at ih
      refine ⟨splitsInto_cons.2 (.inr ⟨other, a, rfl, ih.1⟩), fun a' b' h => ?_⟩
      rcases splitsInto_cons.1 h with ⟨rfl, -⟩ | ⟨-, a'', rfl, h⟩
      · exact Nat.zero_le _
      · exact Nat.succ_le_succ (ih.2 a'' b' ‹_›)
    | none =>
      have nowhere : c ≠ '\n' → ∀ a b, ¬ SplitsInto rest a b := by
        intro other
        rw [if_neg other] at later
        rwa [later] at ih
      have here {a b : List Char} (h : SplitsInto (c :: rest) a b) :
          a = [] ∧ Text.isBlank c ∧ '\n' ∉ b ∧ ∃ d, Text.isBlank d ∧ rest = 'A' :: 'S' :: d :: b := by
        rcases splitsInto_cons.1 h with here | ⟨other, a', -, h⟩
        · exact here
        · exact absurd h (nowhere other a' b)
      dsimp only
      split
      · rename_i found
        split at found
        · rename_i d b'
          split at found
          · rename_i blanks
            obtain ⟨rfl, rfl⟩ := Prod.mk.inj (Option.some.inj found)
            simp only [Bool.and_eq_true, List.all_eq_true, decide_eq_true_eq] at blanks
            have back : '\n' ∉ b' := fun member => blanks.2 _ member rfl
            refine ⟨splitsInto_cons.2 (.inl ⟨rfl, blanks.1.1, back, d, blanks.1.2, rfl⟩), ?_⟩
            intro a b h
            rw [(here h).1]
          · cases found
        · cases found
      · rename_i missed
        intro a b h
        obtain ⟨-, first, back, d, last, rfl⟩ := here h
        have breaks : ∀ c ∈ b, c ≠ '\n' := fun c member same => back (same ▸ member)
        simp [first, last] at missed
        exact absurd breaks (by simpa using missed)

def IsSelfAlias (cs x : List Char) : Prop := IsLastSplit cs x x

theorem collapseAlias_of_isSelfAlias {s : String} {x : List Char} (h : IsSelfAlias s.toList x) :
    collapseAlias s = String.ofList x := by
  have spec := splitAtAlias_spec s.toList
  rw [collapseAlias]
  cases found : splitAtAlias s.toList with
  | none =>
    rw [found] at spec
    exact absurd h.1 (spec x x)
  | some split =>
    obtain ⟨a, b⟩ := split
    rw [found] at spec
    obtain ⟨rfl, rfl⟩ := IsLastSplit.unique h spec
    simp

theorem collapseAlias_of_not_isSelfAlias {s : String} (h : ∀ x, ¬ IsSelfAlias s.toList x) :
    collapseAlias s = s := by
  have spec := splitAtAlias_spec s.toList
  rw [collapseAlias]
  cases found : splitAtAlias s.toList with
  | none => rfl
  | some split =>
    obtain ⟨a, b⟩ := split
    rw [found] at spec
    have differ : a ≠ b := by
      rintro rfl
      exact h a spec
    simp [differ]

theorem collapseAlias_eq_self_iff {s : String} :
    collapseAlias s = s ↔ ∀ x, ¬ IsSelfAlias s.toList x := by
  refine ⟨fun same x h => ?_, collapseAlias_of_not_isSelfAlias⟩
  rw [collapseAlias_of_isSelfAlias h] at same
  obtain ⟨⟨c, d, -, -, eq, -⟩, -⟩ := h
  have shorter := congrArg List.length eq
  rw [← same, String.toList_ofList] at shorter
  simp only [List.length_append, List.length_cons] at shorter
  omega

/-! ## Watching for an alias outside regions -/

/-- How much of a blank, `AS` and a blank has been read last. -/
inductive AliasProgress where
  | none
  | blank
  | a
  | as
  deriving DecidableEq

namespace AliasProgress

/-- Reads a lexeme, unless it completes the alias. -/
def after : AliasProgress → Lexeme → Option AliasProgress
  | _, .quoted _ _ => some .none
  | p, .char c =>
    if Text.isBlank c then if p = .as then Option.none else some .blank
    else if p = .blank ∧ c = 'A' then some .a
    else if p = .a ∧ c = 'S' then some .as
    else some .none

def watch (p : AliasProgress) (ls : List Lexeme) : Option AliasProgress := ls.foldlM after p

theorem watch_append (p : AliasProgress) (ls ms : List Lexeme) :
    p.watch (ls ++ ms) = (p.watch ls).bind (watch · ms) :=
  List.foldlM_append

theorem watch_cons (p : AliasProgress) (l : Lexeme) (ls : List Lexeme) :
    p.watch (l :: ls) = (p.after l).bind (watch · ls) :=
  List.foldlM_cons

theorem watch_eq_none {c d : Char} (hc : Text.isBlank c) (hd : Text.isBlank d) {ls : List Lexeme}
    (h : plain [c, 'A', 'S', d] <:+: ls) (p : AliasProgress) : p.watch ls = Option.none := by
  have letters : ¬ Text.isBlank 'A' ∧ ¬ Text.isBlank 'S' := by decide
  obtain ⟨front, back, rfl⟩ := h
  rw [List.append_assoc, watch_append]
  cases p.watch front with
  | none => rfl
  | some p =>
    simp only [plain, List.map_cons, List.map_nil, List.cons_append, Option.bind_some, watch_cons]
    by_cases last : p = .as
    · simp [after, hc, last]
    · simp [after, hc, hd, last, letters]

def Calm (p : AliasProgress) : Prop := p = .none ∨ p = .blank

end AliasProgress

def Quiet (ls : List Lexeme) : Prop :=
  ∀ p : AliasProgress, p.Calm → ∃ p', p'.Calm ∧ p.watch ls = some p'

namespace Quiet

variable {ls ms : List Lexeme}

theorem append (hs : Quiet ls) (hm : Quiet ms) : Quiet (ls ++ ms) := by
  intro p calm
  obtain ⟨p', calm', first⟩ := hs p calm
  obtain ⟨p'', calm'', second⟩ := hm p' calm'
  exact ⟨p'', calm'', by rw [AliasProgress.watch_append, first, Option.bind_some, second]⟩

theorem of_not_mem (h : .char 'A' ∉ ls) : Quiet ls := by
  induction ls with
  | nil => exact fun p calm => ⟨p, calm, rfl⟩
  | cons l ls ih =>
    rw [List.mem_cons, not_or] at h
    have first : Quiet [l] := by
      intro p calm
      cases l with
      | quoted q content => exact ⟨.none, .inl rfl, rfl⟩
      | char c =>
        have other : c ≠ 'A' := fun same => h.1 (same ▸ rfl)
        by_cases blank : Text.isBlank c
        · refine ⟨.blank, .inr rfl, ?_⟩
          rcases calm with rfl | rfl <;>
            simp [AliasProgress.watch_cons, AliasProgress.after, blank] <;> rfl
        · refine ⟨.none, .inl rfl, ?_⟩
          rcases calm with rfl | rfl <;>
            simp [AliasProgress.watch_cons, AliasProgress.after, blank, other] <;> rfl
    exact first.append (ih h.2)

theorem enclosed (hs : Quiet ls) : Quiet (enclosed ls) := by
  have opening : Quiet [.char '('] := of_not_mem (by decide)
  exact opening.append (hs.append (of_not_mem (by decide)))

theorem not_infix {c d : Char} (hc : Text.isBlank c) (hd : Text.isBlank d) (hs : Quiet ls) :
    ¬ plain [c, 'A', 'S', d] <:+: ls := by
  intro h
  obtain ⟨p, -, watched⟩ := hs .none (.inl rfl)
  rw [AliasProgress.watch_eq_none hc hd h] at watched
  cases watched

end Quiet

theorem AliasProgress.watch_plain (p : AliasProgress) {cs : List Char}
    (h : ∀ c ∈ cs, ¬ Text.isBlank c) : ∃ p', p.watch (plain cs) = some p' := by
  induction cs generalizing p with
  | nil => exact ⟨p, rfl⟩
  | cons c cs ih =>
    obtain ⟨first, rest⟩ := List.forall_mem_cons.1 h
    rw [plain, List.map_cons, ← plain, watch_cons, after, if_neg first]
    split
    · exact ih .a rest
    · split
      · exact ih .as rest
      · exact ih .none rest

theorem Quiet.applied {cs : List Char} {ls : List Lexeme} (h : ∀ c ∈ cs, ¬ Text.isBlank c)
    (hs : Quiet ls) : Quiet (plain cs ++ CqlClient.enclosed ls) := by
  intro p calm
  obtain ⟨p', read⟩ := p.watch_plain h
  have opening : p'.after (.char '(') = some .none := by cases p' <;> decide
  have closing : Quiet [.char ')'] := of_not_mem (by decide)
  obtain ⟨p'', calm'', rest⟩ := hs.append closing .none (.inl rfl)
  refine ⟨p'', calm'', ?_⟩
  rw [AliasProgress.watch_append, read, Option.bind_some, CqlClient.enclosed,
    AliasProgress.watch_cons, opening, Option.bind_some, rest]

theorem toNat_of_isSubsequent {c : Char} (h : Name.isSubsequent c) :
    48 ≤ c.toNat ∧ c.toNat ≤ 122 := by
  have shape : (decide (65 ≤ c.val ∧ c.val ≤ 90) || (decide (97 ≤ c.val) && decide (c.val ≤ 122)) ||
      (decide (48 ≤ c.val) && decide (c.val ≤ 57)) || decide (c = '_')) = true := h
  simp only [Bool.or_eq_true, Bool.and_eq_true, decide_eq_true_eq, UInt32.le_iff_toNat_le] at shape
  rcases shape with ((⟨low, high⟩ | ⟨low, high⟩) | ⟨low, high⟩) | rfl
  · exact ⟨le_trans (by decide) low, le_trans high (by decide)⟩
  · exact ⟨le_trans (by decide) low, le_trans high (by decide)⟩
  · exact ⟨low, le_trans high (by decide)⟩
  · decide

theorem not_isBlank_of_isSubsequent {c : Char} (h : Name.isSubsequent c) : ¬ Text.isBlank c := by
  obtain ⟨low, high⟩ := toNat_of_isSubsequent h
  simp [Text.isBlank, Text.inRanges, Text.blankRanges]
  omega

theorem composed_quiet : Composed Quiet where
  append := .append
  enclosed := .enclosed
  applied identifier hs := .applied (fun c member => not_isBlank_of_isSubsequent (identifier c member)) hs
  name parts := by
    refine .of_not_mem fun member => ?_
    rcases parts _ member with same | same <;> cases same
  number numeric := by
    refine .of_not_mem fun member => ?_
    obtain ⟨c, mem, same⟩ := List.mem_map.1 member
    cases same
    exact absurd (numeric 'A' mem) (by decide)
  text content := .of_not_mem (by simp)
  fixed s member := by
    by_cases conjunction : s = " AND "
    · subst conjunction
      rintro p (rfl | rfl) <;> exact ⟨.blank, .inr rfl, by decide⟩
    · have letters : ∀ s ∈ fixedTexts, s ≠ " AND " → .char 'A' ∉ plain s.toList := by decide
      exact .of_not_mem (letters s member conjunction)

/-! ## Texts that hold an alias -/

/-- Regions are texts of literals, or identifiers. -/
def HasKnownRegions (ls : List Lexeme) : Prop :=
  ∀ q content, .quoted q content ∈ ls → q = '\'' ∨ ∀ c ∈ content, Name.isSubsequent c

theorem composed_hasKnownRegions : Composed HasKnownRegions where
  append hs hm q content member := by
    rcases List.mem_append.1 member with member | member
    · exact hs q content member
    · exact hm q content member
  enclosed hs q content member := hs q content (quoted_mem_enclosed.1 member)
  applied identifier hs q content member := by
    rcases List.mem_append.1 member with member | member
    · exact absurd member quoted_not_mem_plain
    · exact hs q content (quoted_mem_enclosed.1 member)
  name parts q content member := .inr (parts _ member).2
  number numeric q content member := absurd member quoted_not_mem_plain
  text text q content member := .inl (Lexeme.quoted.inj (List.mem_singleton.1 member)).1
  fixed s _ q content member := absurd member quoted_not_mem_plain

namespace Formatter

variable {f : Formatter} {e : Expr} {t : String}

def HoldsAlias (s : String) : Prop :=
  ∃ c d, Text.isBlank c ∧ Text.isBlank d ∧ [c, 'A', 'S', d] <:+: s.toList

theorem not_isQuote_of_isBlank {c : Char} (h : Text.isBlank c) : ¬ IsQuote c := by
  rintro (rfl | rfl)
  · exact absurd h (by decide)
  · exact absurd h (by decide)

/-- An alias in a rendered expression lies in one of its texts. -/
theorem Renders.holdsAlias (hf : f.Standard) (h : f.Renders e t) {c d : Char}
    (hc : Text.isBlank c) (hd : Text.isBlank d) (found : [c, 'A', 'S', d] <:+: t.toList ++ [' ']) :
    ∃ s, .text s ∈ e.slots ∧ HoldsAlias s := by
  have quiet : Quiet (f.exprLexemes e ++ [.char ' ']) :=
    (composed_quiet.expr hf h).append (.of_not_mem (by decide))
  have each : ∀ l ∈ f.exprLexemes e ++ [.char ' '], l.IsProper := by
    intro l member
    rcases List.mem_append.1 member with member | member
    · exact (h.spelled hf).proper.each l member
    · obtain rfl := List.mem_singleton.1 member
      exact (by decide : ¬ IsQuote ' ')
  have quoteless : Quoteless [c, 'A', 'S', d] := by
    simp only [Quoteless, List.forall_mem_cons, List.not_mem_nil, false_implies, implies_true, and_true]
    exact ⟨not_isQuote_of_isBlank hc, by decide, by decide, not_isQuote_of_isBlank hd⟩
  have spelled : [c, 'A', 'S', d] <:+: spell (f.exprLexemes e ++ [.char ' ']) := by
    rwa [spell_append, ← (h.spelled hf).toList_eq]
  rcases infix_of_infix_spell each quoteless spelled with outside | ⟨q, content, member, inside⟩
  · exact absurd outside (quiet.not_infix hc hd)
  · have member : .quoted q content ∈ f.exprLexemes e := by simpa using member
    rcases composed_hasKnownRegions.expr hf h q content member with rfl | identifier
    · refine ⟨String.ofList content, ?_, c, d, hc, hd, by simpa using inside⟩
      rw [← h.slotsOf_eq hf, slotsOf, List.mem_filterMap]
      exact ⟨_, member, rfl⟩
    · exact absurd hc (not_isBlank_of_isSubsequent (identifier c (inside.subset List.mem_cons_self)))

end Formatter

/-! ## Fields -/

theorem not_isSelfAlias {cs : List Char} (h : ∀ c ∈ cs, ¬ Text.isBlank c) (x : List Char) :
    ¬ IsSelfAlias cs x := by
  rintro ⟨⟨c, d, blank, -, rfl, -⟩, -⟩
  exact h c (by simp) blank

/-- Before the alias of a field, another can stand only in the text of its expression. -/
theorem alias_or_earlier {text name a b : List Char} {c d : Char}
    (clean : ∀ c ∈ name, ¬ Text.isBlank c) (hc : Text.isBlank c) (hd : Text.isBlank d)
    (h : text ++ ' ' :: 'A' :: 'S' :: ' ' :: name = a ++ c :: 'A' :: 'S' :: d :: b) :
    a = text ∧ b = name ∨ a.length < text.length ∧ [c, 'A', 'S', d] <:+: text ++ [' '] := by
  have letters : ¬ Text.isBlank 'A' ∧ ¬ Text.isBlank 'S' := by decide
  rcases List.append_eq_append_iff.1 h with ⟨r, rfl, eq⟩ | ⟨r, rfl, eq⟩
  · -- The other split is not before the alias, and after it there are no two more blanks.
    rcases r with _ | ⟨_, _ | ⟨_, _ | ⟨_, _ | ⟨_, r⟩⟩⟩⟩
    · simp only [List.nil_append, List.cons.injEq, true_and] at eq
      exact .inl ⟨List.append_nil text, eq.2.2.symm⟩
    · simp only [List.cons_append, List.nil_append, List.cons.injEq] at eq
      exact absurd (eq.2.1 ▸ hc) letters.1
    · simp only [List.cons_append, List.nil_append, List.cons.injEq] at eq
      exact absurd (eq.2.2.1 ▸ hc) letters.2
    · simp only [List.cons_append, List.nil_append, List.cons.injEq] at eq
      exact absurd hd (clean d (by simp [eq.2.2.2.2]))
    · simp only [List.cons_append, List.cons.injEq] at eq
      exact absurd hc (clean c (by simp [eq.2.2.2.2]))
  · rcases r with _ | ⟨_, _ | ⟨_, _ | ⟨_, _ | ⟨_, r⟩⟩⟩⟩
    · simp only [List.nil_append, List.cons.injEq, true_and] at eq
      exact .inl ⟨(List.append_nil a).symm, eq.2.2⟩
    · simp at eq
    · simp at eq
    · simp only [List.cons_append, List.nil_append, List.cons.injEq] at eq
      obtain ⟨rfl, rfl, rfl, rfl, -⟩ := eq
      exact .inr ⟨by simp, a, [], by simp⟩
    · simp only [List.cons_append, List.cons.injEq] at eq
      obtain ⟨rfl, rfl, rfl, rfl, -⟩ := eq
      exact .inr ⟨by simp, a, r ++ [' '], by simp⟩

namespace Name

theorem splitDots_of_not_mem {cs : List Char} (h : '.' ∉ cs) : splitDots cs = [cs] := by
  induction cs with
  | nil => rfl
  | cons c cs ih =>
    rw [List.mem_cons, not_or] at h
    rw [splitDots, if_neg (Ne.symm h.1), ih h.2]

theorem member_mem_segments (name : String) : member name ∈ segments name := by
  have some_part : segments name ≠ [] := by simpa [segments] using splitDots_ne_nil name.toList
  rw [member, List.getLastD_eq_getLast?, List.getLast?_eq_some_getLast some_part]
  exact List.getLast_mem some_part

theorem isQualified_member (name : String) : isQualified (member name) = false := by
  obtain ⟨part, split, eq⟩ := List.mem_map.1 (member_mem_segments name)
  have whole : splitDots part = [part] :=
    splitDots_of_not_mem fun member => (mem_of_mem_splitDots split member).2 rfl
  simp [isQualified, ← eq, whole]

end Name

namespace Formatter

theorem not_isBlank_of_escapeName {f : Formatter} {name t : String} (hf : f.Standard)
    (h : f.escapeName name = .ok t) {c : Char} (member : c ∈ t.toList) : ¬ Text.isBlank c := by
  rw [(escapeName_spelled hf h).toList_eq, spell, List.mem_flatMap] at member
  obtain ⟨l, part, inside⟩ := member
  have shape := isPart_of_escapeName hf h part
  cases l with
  | char d =>
    obtain rfl := List.mem_singleton.1 inside
    rcases shape with rfl | rfl <;> decide
  | quoted q content =>
    obtain ⟨rfl, identifier⟩ := shape
    have quoteless : '"' ∉ content := fun member => absurd (identifier _ member) (by decide)
    rw [Lexeme.spelled, doubled_of_not_mem quoteless, List.mem_cons, List.mem_append,
      List.mem_singleton] at inside
    rcases inside with rfl | inside | rfl
    · decide
    · exact not_isBlank_of_isSubsequent (identifier c inside)
    · decide

theorem escapeName_member {name : String} (h : Name.isQualified name) :
    cql.escapeName (Name.member name) = cql.escapeName name := by
  simp [escapeName, cql, h, Name.isQualified_member]

/-- A field with its alias, unless that is the text of its expression. -/
def aliasedOnce (f : Formatter) (field : SelectField) (place : FieldPlace) :
    Except CqlError String := do
  let text ← f.formatExpr field.expr
  match place, field.aliasName with
  | .selected, some a => do
    let name ← f.escapeName a
    .ok (if name = text then text else text ++ " AS " ++ name)
  | _, _ => .ok text

variable {field : SelectField} {place : FieldPlace} {text : String}

theorem aliasedOnce_eq_ok (h : cql.aliasedOnce field place = .ok text) :
    (cql.Renders field.expr text ∧ cql.formatAliased field place = .ok text) ∨
    ∃ t a name, cql.Renders field.expr t ∧ field.aliasName = some a ∧ cql.escapeName a = .ok name ∧
      cql.formatAliased field place = .ok (t ++ " AS " ++ name) ∧
      text = if name = t then t else t ++ " AS " ++ name := by
  simp only [aliasedOnce, bind_eq_ok] at h
  obtain ⟨t, renders, h⟩ := h
  cases place with
  | referenced =>
    cases h
    refine .inl ⟨renders, ?_⟩
    rw [formatAliased, renders]
    rfl
  | selected =>
    cases given : field.aliasName with
    | none =>
      rw [given] at h
      cases h
      refine .inl ⟨renders, ?_⟩
      rw [formatAliased, renders]
      cases field.expr <;> simp [given, cql, bind, Except.bind]
    | some a =>
      simp only [given, bind_eq_ok, Except.ok.injEq] at h
      obtain ⟨name, escaped, rfl⟩ := h
      refine .inr ⟨t, a, name, renders, rfl, escaped, ?_, rfl⟩
      rw [formatAliased, renders]
      simp [given, escaped, bind, Except.bind]

theorem collapseAlias_name {name : String} (clean : ∀ c ∈ name.toList, ¬ Text.isBlank c) :
    collapseAlias name = name :=
  collapseAlias_of_not_isSelfAlias (not_isSelfAlias clean)

theorem collapseAlias_aliased {name : String} (clean : ∀ c ∈ name.toList, ¬ Text.isBlank c) :
    collapseAlias (name ++ " AS " ++ name) = name := by
  have unbroken : '\n' ∉ name.toList := fun member => clean _ member (by decide)
  have whole : (name ++ " AS " ++ name).toList =
      name.toList ++ ' ' :: 'A' :: 'S' :: ' ' :: name.toList := by simp
  have self : IsSelfAlias (name ++ " AS " ++ name).toList name.toList := by
    rw [whole]
    refine ⟨⟨' ', ' ', by decide, by decide, rfl, unbroken, unbroken⟩, ?_⟩
    rintro a b ⟨c, d, hc, hd, eq, -⟩
    rcases alias_or_earlier clean hc hd eq with ⟨rfl, -⟩ | ⟨shorter, -⟩
    · exact le_refl _
    · exact Nat.le_of_lt shorter
  rw [collapseAlias_of_isSelfAlias self, String.ofList_toList]

theorem formatField_eq_collapseAlias (h : cql.aliasedOnce field place = .ok text) :
    cql.formatField field place = .ok (collapseAlias text) := by
  have collapsed {u : String} (aliased : cql.formatAliased field place = .ok u) :
      (do .ok (collapseAlias (← cql.formatAliased field place)) : Except CqlError String) =
        .ok (collapseAlias u) := by
    rw [aliased]
    rfl
  have general : (do .ok (collapseAlias (← cql.formatAliased field place)) : Except CqlError String) =
      .ok (collapseAlias text) := by
    rcases aliasedOnce_eq_ok h with ⟨-, aliased⟩ | ⟨t, a, name, -, -, escaped, aliased, rfl⟩
    · exact collapsed aliased
    · rw [collapsed aliased]
      have clean : ∀ c ∈ name.toList, ¬ Text.isBlank c :=
        fun c => not_isBlank_of_escapeName cql_standard escaped
      by_cases same : name = t
      · subst same
        rw [if_pos rfl, collapseAlias_aliased clean, collapseAlias_name clean]
      · rw [if_neg same]
  unfold formatField
  dsimp only [cql]
  split
  · rename_i n unaliased named
    split
    · rename_i qualified
      have escaped : cql.escapeName n = .ok text := by
        rcases aliasedOnce_eq_ok h with ⟨renders, -⟩ | ⟨t, a, name, -, given, -⟩
        · rwa [named] at renders
        · rw [unaliased] at given
          cases given
      rw [collapseAlias_name fun c => not_isBlank_of_escapeName cql_standard escaped, ← escaped]
      exact escapeName_member qualified
    · exact general
  · exact general

/-- A field is written as it should be just when its text does not repeat itself around an alias. -/
theorem formatField_eq_ok_iff (h : cql.aliasedOnce field place = .ok text) :
    (cql.formatField field place = .ok text ↔ ∀ x, ¬ IsSelfAlias text.toList x) ∧
      ∀ x, IsSelfAlias text.toList x → cql.formatField field place = .ok (String.ofList x) := by
  rw [formatField_eq_collapseAlias h]
  refine ⟨by rw [Except.ok.injEq, collapseAlias_eq_self_iff], fun x self => ?_⟩
  rw [collapseAlias_of_isSelfAlias self]

/-- The quotes of a literal make its text repeat itself around an alias. -/
theorem alias_in_literal :
    cql.aliasedOnce { expr := .literal (.str "' AS '") } .referenced = .ok "''' AS '''" ∧
      cql.formatField { expr := .literal (.str "' AS '") } .referenced = .ok "'''" := by
  refine ⟨rfl, (formatField_eq_ok_iff rfl).2 ['\'', '\'', '\''] ?_⟩
  exact splitAtAlias_spec "''' AS '''".toList

/-- Only the text of a literal can be taken for an alias. -/
theorem formatField_eq_aliasedOnce (h : cql.aliasedOnce field place = .ok text)
    (clean : ∀ s, .text s ∈ field.expr.slots → ¬ HoldsAlias s) :
    cql.formatField field place = .ok text := by
  rw [formatField_eq_collapseAlias h, Except.ok.injEq, collapseAlias_eq_self_iff]
  rintro x ⟨⟨c, d, hc, hd, eq, -⟩, -⟩
  have absent {t : String} (renders : cql.Renders field.expr t) :
      ¬ [c, 'A', 'S', d] <:+: t.toList ++ [' '] := by
    intro found
    obtain ⟨s, slot, holds⟩ := renders.holdsAlias cql_standard hc hd found
    exact clean s slot holds
  have inside {t : String} (eq : t.toList = x ++ c :: 'A' :: 'S' :: d :: x) :
      [c, 'A', 'S', d] <:+: t.toList ++ [' '] := ⟨x, x ++ [' '], by simp [eq]⟩
  rcases aliasedOnce_eq_ok h with ⟨renders, -⟩ | ⟨t, a, name, renders, -, escaped, -, rfl⟩
  · exact absent renders (inside eq)
  · split at eq
    · exact absent renders (inside eq)
    · rename_i differ
      have blankless : ∀ c ∈ name.toList, ¬ Text.isBlank c :=
        fun c => not_isBlank_of_escapeName cql_standard escaped
      have whole : t.toList ++ ' ' :: 'A' :: 'S' :: ' ' :: name.toList =
          x ++ c :: 'A' :: 'S' :: d :: x := by simpa using eq
      rcases alias_or_earlier blankless hc hd whole with ⟨left, right⟩ | ⟨-, found⟩
      · exact differ (String.toList_injective (right.symm.trans left))
      · exact absent renders found

end Formatter

end CqlClient
