import CqlClient.Format.Expr
import CqlClient.Proofs.Except
import CqlClient.Proofs.Text.Lexeme
import CqlClient.Proofs.Text.Number

/-!
# Lexemes of rendered expressions

Names and texts of literals are the quoted regions of a rendered expression. `exprLexemes` writes an
expression as lexemes, and by `formatExpr_spelled` a formatter with the usual form of names and the
usual validator spells just these.
-/

namespace CqlClient

/-! ## Induction on values and expressions -/

@[elab_as_elim]
theorem Json.induct {P : Json → Prop} (null : P .null) (bool : ∀ b, P (.bool b))
    (int : ∀ n, P (.int n)) (float : ∀ x, P (.float x)) (str : ∀ s, P (.str s))
    (arr : ∀ items, (∀ v ∈ items, P v) → P (.arr items)) (obj : ∀ members, P (.obj members)) :
    ∀ v, P v
  | .null => null
  | .bool b => bool b
  | .int n => int n
  | .float x => float x
  | .str s => str s
  | .arr items => arr items fun v _ => Json.induct null bool int float str arr obj v
  | .obj members => obj members

@[elab_as_elim]
theorem Expr.induct {P : Expr → Prop} (name : ∀ n, P (.name n)) (literal : ∀ v, P (.literal v))
    (param : P .param) (compare : ∀ op left right, P left → P right → P (.compare op left right))
    (and : ∀ items, (∀ e ∈ items, P e) → P (.and items))
    (or : ∀ items, (∀ e ∈ items, P e) → P (.or items))
    (oneOf : ∀ subject values, P subject → (∀ e ∈ values, P e) → P (.oneOf subject values))
    (call : ∀ function args, (∀ e ∈ args, P e) → P (.call function args)) : ∀ e, P e
  | .name n => name n
  | .literal v => literal v
  | .param => param
  | .compare op left right =>
    compare op left right (Expr.induct name literal param compare and or oneOf call left)
      (Expr.induct name literal param compare and or oneOf call right)
  | .and items => and items fun e _ => Expr.induct name literal param compare and or oneOf call e
  | .or items => or items fun e _ => Expr.induct name literal param compare and or oneOf call e
  | .oneOf subject values =>
    oneOf subject values (Expr.induct name literal param compare and or oneOf call subject)
      fun e _ => Expr.induct name literal param compare and or oneOf call e
  | .call function args =>
    call function args fun e _ => Expr.induct name literal param compare and or oneOf call e

/-! ## Literals -/

theorem literalItems_eq (items : List Json) :
    literalItems items = [',', ' '].intercalate (items.map literalChars) := by
  induction items with
  | nil => rfl
  | cons v items ih =>
    cases items with
    | nil => simp [literalItems]
    | cons w items => simp [literalItems, List.intercalate_cons_cons, ih]

mutual

def literalLexemes : Json → List Lexeme
  | .null => plain ['N', 'U', 'L', 'L']
  | .bool true => plain ['t', 'r', 'u', 'e']
  | .bool false => plain ['f', 'a', 'l', 's', 'e']
  | .int n => plain (Text.intChars n)
  | .float x => plain (Json.floatText x).toList
  | .str s => [.quoted '\'' s.toList]
  | .arr items => enclosed ((plain [',', ' ']).intercalate (literalsLexemes items))
  | .obj members => [.quoted '\'' (Json.obj members).chars]

def literalsLexemes : List Json → List (List Lexeme)
  | [] => []
  | v :: rest => literalLexemes v :: literalsLexemes rest

end

theorem literalsLexemes_eq (items : List Json) : literalsLexemes items = items.map literalLexemes := by
  induction items with
  | nil => rfl
  | cons v items ih => rw [literalsLexemes, ih, List.map_cons]

theorem not_isQuote_of_isNumeric {c : Char} (h : IsNumeric c) : ¬ IsQuote c := by
  rintro (rfl | rfl)
  · revert h
    decide
  · revert h
    decide

theorem spell_literalLexemes (v : Json) : spell (literalLexemes v) = literalChars v := by
  induction v using Json.induct with
  | null => rfl
  | bool b => cases b <;> rfl
  | int n => simp [literalLexemes, literalChars]
  | float x => simp [literalLexemes, literalChars]
  | str s => simp [literalLexemes, literalChars, Lexeme.spelled, quoteText, doubled]
  | arr items ih =>
    have each : (items.map literalLexemes).map spell = items.map literalChars := by
      rw [List.map_map]
      exact List.map_congr_left ih
    rw [literalLexemes, literalChars, literalItems_eq, literalsLexemes_eq, enclosed, spell_cons,
      spell_append, spell_intercalate, each]
    rfl
  | obj members => simp [literalLexemes, literalChars, Lexeme.spelled, quoteText, doubled]

theorem proper_literalLexemes (v : Json) : Proper (literalLexemes v) := by
  induction v using Json.induct with
  | null => exact .of_plain (by decide)
  | bool b => cases b <;> exact .of_plain (by decide)
  | int n => exact .of_plain fun c h => not_isQuote_of_isNumeric (isNumeric_of_mem_intChars h)
  | float x => exact .of_plain fun c h => not_isQuote_of_isNumeric (isNumeric_of_mem_floatText h)
  | str s => exact .region (by decide) _
  | arr items ih =>
    rw [literalLexemes, literalsLexemes_eq]
    refine .enclosed (.intercalate (by decide) (by decide) fun ls member => ?_)
    obtain ⟨v, mem, rfl⟩ := List.mem_map.1 member
    exact ih v mem
  | obj members => exact .region (by decide) _

theorem literal_spelled (v : Json) : Spelled (literal v) (literalLexemes v) :=
  ⟨by rw [literal, String.toList_ofList, spell_literalLexemes], proper_literalLexemes v⟩

/-! ## Names -/

namespace Formatter

structure Standard (f : Formatter) : Prop where
  nameFormat_eq : f.nameFormat = "\"$1\""
  validator_eq : f.validator = .standard

theorem neutral_standard : neutral.Standard := ⟨rfl, rfl⟩

theorem cql_standard : cql.Standard := ⟨rfl, rfl⟩

def writtenName (f : Formatter) (name : String) : String :=
  match f.grammar with
  | .neutral => name
  | .cql => if Name.isQualified name then Name.member name else name

theorem escapeName_eq (f : Formatter) (name : String) :
    f.escapeName name = f.quoteName (f.writtenName name) := by
  unfold escapeName writtenName
  cases f.grammar <;> rfl

theorem quoteIdentifier_toList {f : Formatter} (hf : f.Standard) (part : String) :
    (f.quoteIdentifier part).toList = '"' :: (part.toList ++ ['"']) := by
  simp [quoteIdentifier, hf.nameFormat_eq, fillIn]

end Formatter

namespace Name

def lexemes (name : String) : List Lexeme :=
  if name = "*" then [.char '*']
  else (plain ['.']).intercalate ((segments name).map fun part => [.quoted '"' part.toList])

theorem mem_of_mem_splitDots {cs part : List Char} (h : part ∈ splitDots cs) {c : Char}
    (member : c ∈ part) : c ∈ cs ∧ c ≠ '.' := by
  induction cs generalizing part with
  | nil =>
    obtain rfl := List.mem_singleton.1 h
    cases member
  | cons d cs ih =>
    rw [splitDots] at h
    split at h
    · rcases List.mem_cons.1 h with rfl | h
      · cases member
      · exact (ih h member).imp_left (List.mem_cons_of_mem d)
    · rename_i other
      split at h
      · obtain rfl := List.mem_singleton.1 h
        obtain rfl := List.mem_singleton.1 member
        exact ⟨List.mem_cons_self, other⟩
      · rename_i first parts split
        rw [split] at ih
        rcases List.mem_cons.1 h with rfl | h
        · rcases List.mem_cons.1 member with rfl | member
          · exact ⟨List.mem_cons_self, other⟩
          · exact (ih List.mem_cons_self member).imp_left (List.mem_cons_of_mem d)
        · exact (ih (List.mem_cons_of_mem first h) member).imp_left (List.mem_cons_of_mem d)

theorem splitDots_ne_nil (cs : List Char) : splitDots cs ≠ [] := by
  cases cs with
  | nil => simp [splitDots]
  | cons c cs =>
    rw [splitDots]
    split
    · simp
    · split <;> simp

theorem isSubsequent_of_isInitial {c : Char} (h : isInitial c) : isSubsequent c := by
  simp only [isInitial, isSubsequent, Char.isAlphanum, Bool.or_eq_true] at h ⊢
  exact h.imp_left .inl

theorem isSubsequent_of_isDotted {fresh : Bool} {cs : List Char} (h : isDotted fresh cs) {c : Char}
    (member : c ∈ cs) (other : c ≠ '.') : isSubsequent c := by
  induction cs generalizing fresh with
  | nil => cases member
  | cons d cs ih =>
    cases fresh with
    | true =>
      obtain ⟨first, rest⟩ := Bool.and_eq_true_iff.1 h
      rcases List.mem_cons.1 member with rfl | member
      · exact isSubsequent_of_isInitial first
      · exact ih rest member
    | false =>
      rw [isDotted] at h
      split at h
      · rename_i dot
        rcases List.mem_cons.1 member with rfl | member
        · exact absurd dot other
        · exact ih h member
      · obtain ⟨first, rest⟩ := Bool.and_eq_true_iff.1 h
        rcases List.mem_cons.1 member with rfl | member
        · exact first
        · exact ih rest member

theorem isSubsequent_of_mem_segments {name part : String} (h : isDotted true name.toList)
    (member : part ∈ segments name) {c : Char} (mem : c ∈ part.toList) : isSubsequent c := by
  obtain ⟨cs, split, rfl⟩ := List.mem_map.1 member
  rw [String.toList_ofList] at mem
  obtain ⟨inside, other⟩ := mem_of_mem_splitDots split mem
  exact isSubsequent_of_isDotted h inside other

def IsPart : Lexeme → Prop
  | .char c => c = '*' ∨ c = '.'
  | .quoted q content => q = '"' ∧ ∀ c ∈ content, isSubsequent c

theorem isPart_of_mem_lexemes {name : String} (h : name = "*" ∨ isDotted true name.toList)
    {l : Lexeme} (member : l ∈ lexemes name) : IsPart l := by
  rw [lexemes] at member
  split at member
  · obtain rfl := List.mem_singleton.1 member
    exact .inl rfl
  · rename_i star
    rcases mem_of_mem_intercalate member with dot | ⟨ls, mem, inside⟩
    · obtain rfl := List.mem_singleton.1 dot
      exact .inr rfl
    · obtain ⟨part, segment, rfl⟩ := List.mem_map.1 mem
      obtain rfl := List.mem_singleton.1 inside
      exact ⟨rfl, fun c => isSubsequent_of_mem_segments (h.resolve_left star) segment⟩

end Name

namespace Formatter

variable {f : Formatter} {name t : String}

theorem accepted_of_quoteName (hf : f.Standard) (h : f.quoteName name = .ok t) :
    name = "*" ∨ Name.isDotted true name.toList := by
  rw [quoteName] at h
  split at h
  · rename_i star
    exact .inl star
  · split at h
    · rename_i accepted
      rw [hf.validator_eq] at accepted
      exact .inr accepted
    · cases h

theorem quoteName_spelled (hf : f.Standard) (h : f.quoteName name = .ok t) :
    Spelled t (Name.lexemes name) := by
  have accepted := accepted_of_quoteName hf h
  rw [quoteName] at h
  rw [Name.lexemes]
  split at h
  · rename_i star
    cases h
    rw [if_pos star, star]
    exact .of_quoteless (by decide)
  · rename_i star
    rw [hf.validator_eq] at h
    rw [if_neg star]
    have dotted := accepted.resolve_left star
    rw [if_pos (show NameValidator.standard.accepts name true from dotted)] at h
    cases h
    refine .intercalate (by decide) (by decide) ?_
    rw [List.forall₂_map_left_iff, List.forall₂_map_right_iff, List.forall₂_same]
    intro part segment
    have clean : '"' ∉ part.toList := fun member =>
      absurd (Name.isSubsequent_of_mem_segments dotted segment member) (by decide)
    refine ⟨?_, .region (by decide) _⟩
    rw [quoteIdentifier_toList hf]
    simp [Lexeme.spelled, doubled_of_not_mem clean]

def nameLexemes (f : Formatter) (name : String) : List Lexeme := Name.lexemes (f.writtenName name)

theorem escapeName_spelled (hf : f.Standard) (h : f.escapeName name = .ok t) :
    Spelled t (f.nameLexemes name) :=
  quoteName_spelled hf (escapeName_eq f name ▸ h)

theorem isPart_of_escapeName (hf : f.Standard) (h : f.escapeName name = .ok t) {l : Lexeme}
    (member : l ∈ f.nameLexemes name) : Name.IsPart l :=
  Name.isPart_of_mem_lexemes (accepted_of_quoteName hf (escapeName_eq f name ▸ h)) member

/-! ## Rendered expressions -/

section Rendered

variable {e subject left right : Expr} {items values args : List Expr} {ts : List String}

def Renders (f : Formatter) (e : Expr) (t : String) : Prop := f.formatExpr e = .ok t

theorem formatExprs_eq_ok : f.formatExprs items = .ok ts ↔ List.Forall₂ f.Renders items ts := by
  induction items generalizing ts with
  | nil =>
    rw [formatExprs, List.forall₂_nil_left_iff, Except.ok.injEq]
    exact eq_comm
  | cons e items ih =>
    simp only [formatExprs, bind_eq_ok, ih, List.forall₂_cons_left_iff, Except.ok.injEq, Renders]
    constructor
    · rintro ⟨t, head, ts, tail, rfl⟩
      exact ⟨t, ts, head, tail, rfl⟩
    · rintro ⟨t, ts, head, tail, rfl⟩
      exact ⟨t, head, ts, tail, rfl⟩

theorem exists_renders (each : List.Forall₂ f.Renders items ts) (member : e ∈ items) :
    ∃ t, f.Renders e t := by
  induction each with
  | nil => cases member
  | cons head _ ih =>
    rcases List.mem_cons.1 member with rfl | member
    · exact ⟨_, head⟩
    · exact ih member

theorem connect_eq_ok {operator : String} (h : connect operator ts = .ok t) :
    ts ≠ [] ∧ t = (" " ++ operator ++ " ").intercalate ts := by
  rw [connect] at h
  split at h
  · cases h
  · rename_i nonempty
    cases h
    exact ⟨by simpa using nonempty, rfl⟩

theorem Renders.compare {op : CompareOp} (h : f.Renders (.compare op left right) t) :
    ∃ l r, f.Renders left l ∧ f.Renders right r ∧ t = l ++ (" " ++ op.sign ++ " " ++ r) := by
  simp only [Renders, formatExpr, bind_eq_ok, Except.ok.injEq] at h
  obtain ⟨l, hl, r, hr, rfl⟩ := h
  exact ⟨l, r, hl, hr, by simp only [String.append_assoc]⟩

theorem Renders.and (h : f.Renders (.and items) t) :
    ∃ ts, List.Forall₂ f.Renders items ts ∧ ts ≠ [] ∧ t = parenthesized (" AND ".intercalate ts) := by
  simp only [Renders, formatExpr, bind_eq_ok, formatExprs_eq_ok, Except.ok.injEq] at h
  obtain ⟨ts, each, joined, connected, rfl⟩ := h
  obtain ⟨nonempty, rfl⟩ := connect_eq_ok connected
  exact ⟨ts, each, nonempty, rfl⟩

theorem Renders.or (h : f.Renders (.or items) t) :
    ∃ ts, List.Forall₂ f.Renders items ts ∧ ts ≠ [] ∧ t = parenthesized (" OR ".intercalate ts) := by
  simp only [Renders, formatExpr, bind_eq_ok, formatExprs_eq_ok, Except.ok.injEq] at h
  obtain ⟨ts, each, joined, connected, rfl⟩ := h
  obtain ⟨nonempty, rfl⟩ := connect_eq_ok connected
  exact ⟨ts, each, nonempty, rfl⟩

theorem Renders.oneOf (h : f.Renders (.oneOf subject values) t) :
    ∃ s ts, f.Renders subject s ∧ List.Forall₂ f.Renders values ts ∧
      t = s ++ (" IN " ++ parenthesized (commaSeparated ts)) := by
  rw [Renders, formatExpr] at h
  split at h
  · cases h
  · simp only [bind_eq_ok, formatExprs_eq_ok, Except.ok.injEq] at h
    obtain ⟨s, hs, ts, each, rfl⟩ := h
    exact ⟨s, ts, hs, each, String.append_assoc ..⟩

theorem Renders.call {function : String} (h : f.Renders (.call function args) t) :
    f.validator.accepts function false ∧ ∃ ts, List.Forall₂ f.Renders args ts ∧
      t = function ++ parenthesized (commaSeparated ts) := by
  rw [Renders, formatExpr] at h
  split at h
  · rename_i accepted
    simp only [bind_eq_ok, formatExprs_eq_ok, Except.ok.injEq] at h
    obtain ⟨ts, each, rfl⟩ := h
    exact ⟨accepted, ts, each, rfl⟩
  · cases h

end Rendered

/-! ## Their lexemes -/

def listed (separator : String) (items : List (List Lexeme)) : List Lexeme :=
  (plain separator.toList).intercalate items

mutual

def exprLexemes (f : Formatter) : Expr → List Lexeme
  | .name n => f.nameLexemes n
  | .literal v => literalLexemes v
  | .param => [.char '?']
  | .compare op left right =>
    exprLexemes f left ++ (plain (" " ++ op.sign ++ " ").toList ++ exprLexemes f right)
  | .and items => enclosed (listed " AND " (exprsLexemes f items))
  | .or items => enclosed (listed " OR " (exprsLexemes f items))
  | .oneOf subject values =>
    exprLexemes f subject ++
      (plain " IN ".toList ++ enclosed (listed ", " (exprsLexemes f values)))
  | .call function args =>
    plain function.toList ++ enclosed (listed ", " (exprsLexemes f args))

def exprsLexemes (f : Formatter) : List Expr → List (List Lexeme)
  | [] => []
  | e :: rest => exprLexemes f e :: exprsLexemes f rest

end

theorem exprsLexemes_eq (f : Formatter) (items : List Expr) :
    f.exprsLexemes items = items.map f.exprLexemes := by
  induction items with
  | nil => rfl
  | cons e items ih => rw [exprsLexemes, ih, List.map_cons]

theorem parenthesized_spelled {ls : List Lexeme} (h : Spelled t ls) :
    Spelled (parenthesized t) (enclosed ls) := by
  refine ⟨?_, h.proper.enclosed⟩
  simp [parenthesized, enclosed, h.toList_eq, Lexeme.spelled]

theorem isSubsequent_of_accepted (hf : f.Standard) {function : String}
    (h : f.validator.accepts function false) {c : Char} (member : c ∈ function.toList) :
    Name.isSubsequent c := by
  rw [hf.validator_eq] at h
  have identifier : Name.isIdentifier function.toList := h
  cases chars : function.toList with
  | nil =>
    rw [chars] at member
    cases member
  | cons d rest =>
    rw [chars] at member identifier
    obtain ⟨first, later⟩ := Bool.and_eq_true_iff.1 identifier
    rcases List.mem_cons.1 member with rfl | member
    · exact Name.isSubsequent_of_isInitial first
    · exact List.all_eq_true.1 later c member

theorem forall₂_spelled {items : List Expr} {ts : List String}
    (ih : ∀ e ∈ items, ∀ {t : String}, f.Renders e t → Spelled t (f.exprLexemes e))
    (each : List.Forall₂ f.Renders items ts) : List.Forall₂ Spelled ts (f.exprsLexemes items) := by
  rw [exprsLexemes_eq, List.forall₂_map_right_iff]
  exact forall₂_of_mem ih each

theorem Renders.spelled (hf : f.Standard) {e : Expr} (h : f.Renders e t) :
    Spelled t (f.exprLexemes e) := by
  induction e using Expr.induct generalizing t with
  | name n => exact escapeName_spelled hf h
  | literal v =>
    cases h
    exact literal_spelled v
  | param =>
    cases h
    exact .of_quoteless (by decide)
  | compare op left right ihl ihr =>
    obtain ⟨l, r, hl, hr, rfl⟩ := h.compare
    refine .between (by cases op <;> decide) (by cases op <;> decide) (ihl hl) (ihr hr)
  | and items ih =>
    obtain ⟨ts, each, -, rfl⟩ := h.and
    exact parenthesized_spelled (.intercalate (by decide) (by decide) (forall₂_spelled ih each))
  | or items ih =>
    obtain ⟨ts, each, -, rfl⟩ := h.or
    exact parenthesized_spelled (.intercalate (by decide) (by decide) (forall₂_spelled ih each))
  | oneOf subject values ihs ih =>
    obtain ⟨s, ts, hs, each, rfl⟩ := h.oneOf
    refine .between (by decide) (by decide) (ihs hs) (parenthesized_spelled ?_)
    exact .intercalate (by decide) (by decide) (forall₂_spelled ih each)
  | call function args ih =>
    obtain ⟨accepted, ts, each, rfl⟩ := h.call
    refine .prepend (fun c member => ?_) (parenthesized_spelled ?_)
    · intro quote
      have subsequent := isSubsequent_of_accepted hf accepted member
      rcases quote with rfl | rfl
      · exact absurd subsequent (by decide)
      · exact absurd subsequent (by decide)
    · exact .intercalate (by decide) (by decide) (forall₂_spelled ih each)

end Formatter

/-! ## Properties of their lexemes -/

/-- The texts that a formatter writes between names, literals and functions. -/
def fixedTexts : List String :=
  ["NULL", "true", "false", "?", ", ", " AND ", " OR ", " IN ", " = ", " <> ", " > ", " >= ", " < ",
    " <= "]

/-- The property passes from the parts of a rendered expression to the whole. -/
structure Composed (P : List Lexeme → Prop) : Prop where
  append : ∀ {ls ms : List Lexeme}, P ls → P ms → P (ls ++ ms)
  enclosed : ∀ {ls : List Lexeme}, P ls → P (enclosed ls)
  applied : ∀ {cs : List Char} {ls : List Lexeme}, (∀ c ∈ cs, Name.isSubsequent c) → P ls →
    P (plain cs ++ CqlClient.enclosed ls)
  name : ∀ {ls : List Lexeme}, (∀ l ∈ ls, Name.IsPart l) → P ls
  number : ∀ {cs : List Char}, (∀ c ∈ cs, IsNumeric c) → P (plain cs)
  text : ∀ content, P [.quoted '\'' content]
  fixed : ∀ s ∈ fixedTexts, P (plain s.toList)

namespace Composed

variable {P : List Lexeme → Prop}

theorem intercalate (h : Composed P) (separator : String) (fixed : separator ∈ fixedTexts)
    {lss : List (List Lexeme)} (each : ∀ ls ∈ lss, P ls) :
    P ((plain separator.toList).intercalate lss) :=
  intercalate_of_append (h.name (by simp)) h.append (h.fixed separator fixed) each

theorem literal (h : Composed P) (v : Json) : P (literalLexemes v) := by
  induction v using Json.induct with
  | null => exact h.fixed "NULL" (by decide)
  | bool b =>
    cases b with
    | true => exact h.fixed "true" (by decide)
    | false => exact h.fixed "false" (by decide)
  | int n => exact h.number fun c => isNumeric_of_mem_intChars
  | float x => exact h.number fun c => isNumeric_of_mem_floatText
  | str s => exact h.text s.toList
  | arr items ih =>
    rw [literalLexemes, literalsLexemes_eq]
    refine h.enclosed (h.intercalate ", " (by decide) fun ls member => ?_)
    obtain ⟨v, mem, rfl⟩ := List.mem_map.1 member
    exact ih v mem
  | obj members => exact h.text _

theorem listed (h : Composed P) {f : Formatter} {separator : String} (fixed : separator ∈ fixedTexts)
    {items : List Expr} {ts : List String} (rendered : List.Forall₂ f.Renders items ts)
    (each : ∀ e ∈ items, ∀ {t : String}, f.Renders e t → P (f.exprLexemes e)) :
    P (Formatter.listed separator (f.exprsLexemes items)) := by
  rw [Formatter.listed, Formatter.exprsLexemes_eq]
  refine h.intercalate separator fixed fun ls member => ?_
  obtain ⟨e, mem, rfl⟩ := List.mem_map.1 member
  obtain ⟨t, renders⟩ := Formatter.exists_renders rendered mem
  exact each e mem renders

theorem expr (h : Composed P) {f : Formatter} (hf : f.Standard) {e : Expr} {t : String}
    (renders : f.Renders e t) : P (f.exprLexemes e) := by
  induction e using Expr.induct generalizing t with
  | name n => exact h.name fun l => Formatter.isPart_of_escapeName hf renders
  | literal v => exact h.literal v
  | param => exact h.fixed "?" (by decide)
  | compare op left right ihl ihr =>
    obtain ⟨l, r, hl, hr, -⟩ := renders.compare
    have sign : " " ++ op.sign ++ " " ∈ fixedTexts := by cases op <;> decide
    exact h.append (ihl hl) (h.append (h.fixed _ sign) (ihr hr))
  | and items ih =>
    obtain ⟨ts, each, -⟩ := renders.and
    exact h.enclosed (h.listed (by decide) each ih)
  | or items ih =>
    obtain ⟨ts, each, -⟩ := renders.or
    exact h.enclosed (h.listed (by decide) each ih)
  | oneOf subject values ihs ih =>
    obtain ⟨s, ts, hs, each, -⟩ := renders.oneOf
    exact h.append (ihs hs) (h.append (h.fixed " IN " (by decide))
      (h.enclosed (h.listed (by decide) each ih)))
  | call function args ih =>
    obtain ⟨accepted, ts, each, -⟩ := renders.call
    exact h.applied (fun c => Formatter.isSubsequent_of_accepted hf accepted)
      (h.listed (by decide) each ih)

end Composed

end CqlClient
