import CqlClient.Proofs.Format.Lexemes
import CqlClient.Proofs.Text.Formula

/-!
# The meaning of filters

A filter means what its tree means: `readFormula_formatFilter` reads its text back to a formula that
has the leaves of the tree and its truth value under every assignment to them, however connectives
are nested and whatever the literals hold.
-/

namespace CqlClient

inductive IsOperand : Expr → Prop where
  | name (n : String) : IsOperand (.name n)
  | param : IsOperand .param
  | literal (v : Json) (single : ∀ items, v ≠ .arr items) : IsOperand (.literal v)
  | call (function : String) (args : List Expr) (each : ∀ e ∈ args, IsOperand e) :
    IsOperand (.call function args)

def Connective.expr : Connective → List Expr → Expr
  | .and => .and
  | .or => .or

/-- Connectives over comparisons and tests of membership. -/
inductive IsFilter : Expr → Prop where
  | compare (op : CompareOp) (left right : Expr) (hl : IsOperand left) (hr : IsOperand right) :
    IsFilter (.compare op left right)
  | oneOf (subject : Expr) (values : List Expr) (hs : IsOperand subject)
    (each : ∀ e ∈ values, IsOperand e) : IsFilter (.oneOf subject values)
  | join (c : Connective) (items : List Expr) (nonempty : items ≠ [])
    (each : ∀ e ∈ items, IsFilter e) : IsFilter (c.expr items)

theorem IsFilter.of_join {c : Connective} {items : List Expr} (h : IsFilter (c.expr items)) :
    items ≠ [] ∧ ∀ e ∈ items, IsFilter e := by
  generalize joined : c.expr items = e at h
  cases h with
  | compare op left right hl hr => cases c <;> cases joined
  | oneOf subject values hs each => cases c <;> cases joined
  | join c' items' nonempty each =>
    obtain rfl : items = items' := by cases c <;> cases c' <;> cases joined <;> rfl
    exact ⟨nonempty, each⟩

namespace Expr

/-! ## Truth values and formulas -/

mutual

def holds (v : Expr → Bool) : Expr → Bool
  | .and items => holdJoined v .and items
  | .or items => holdJoined v .or items
  | e => v e

def holdJoined (v : Expr → Bool) (c : Connective) : List Expr → Bool
  | [] => c.unit
  | e :: rest => c.eval (holds v e) (holdJoined v c rest)

end

mutual

def formula : Expr → Formula Expr
  | .and items =>
    match formulas items with
    | [] => .leaf (.and items)
    | x :: xs => .chain .and x xs
  | .or items =>
    match formulas items with
    | [] => .leaf (.or items)
    | x :: xs => .chain .or x xs
  | e => .leaf e

def formulas : List Expr → List (Formula Expr)
  | [] => []
  | e :: rest => formula e :: formulas rest

end

theorem formulas_eq (items : List Expr) : formulas items = items.map formula := by
  induction items with
  | nil => rfl
  | cons e items ih => rw [formulas, ih, List.map_cons]

theorem formula_join (c : Connective) (e : Expr) (items : List Expr) :
    (c.expr (e :: items)).formula = .chain c e.formula (items.map formula) := by
  rw [← formulas_eq]
  cases c <;> rfl

theorem holds_join (v : Expr → Bool) (c : Connective) (items : List Expr) :
    (c.expr items).holds v = holdJoined v c items := by
  cases c <;> rfl

end Expr

theorem eval_formulas {v : Expr → Bool} {items : List Expr}
    (ih : ∀ e ∈ items, e.formula.eval v = e.holds v) (c : Connective) (b : Bool) :
    ((items.map Expr.formula).map (Formula.eval v)).foldl c.eval b =
      c.eval b (Expr.holdJoined v c items) := by
  induction items generalizing b with
  | nil => exact (c.eval_unit b).symm
  | cons e items tail =>
    obtain ⟨first, rest⟩ := List.forall_mem_cons.1 ih
    rw [List.map_cons, List.map_cons, List.foldl_cons, tail rest, first, Expr.holdJoined,
      c.eval_assoc]

theorem IsFilter.eval_formula {e : Expr} (h : IsFilter e) (v : Expr → Bool) :
    e.formula.eval v = e.holds v := by
  induction h with
  | compare op left right hl hr => rfl
  | oneOf subject values hs each => rfl
  | join c items nonempty each ih =>
    cases items with
    | nil => exact absurd rfl nonempty
    | cons e items =>
      obtain ⟨first, rest⟩ := List.forall_mem_cons.1 ih
      rw [Expr.formula_join, Formula.eval_chain, eval_formulas rest, first, Expr.holds_join,
        Expr.holdJoined]

namespace Formatter

variable {f : Formatter} {e : Expr} {t : String}

/-! ## Tokens of a filter -/

def leafText (f : Formatter) (e : Expr) : String := String.ofList (spell (f.exprLexemes e))

mutual

def exprTokens (f : Formatter) : Expr → List FilterToken
  | .and items =>
    .opening :: ([.connective .and].intercalate (exprsTokens f items) ++ [.closing])
  | .or items =>
    .opening :: ([.connective .or].intercalate (exprsTokens f items) ++ [.closing])
  | e => [.leaf (f.leafText e)]

def exprsTokens (f : Formatter) : List Expr → List (List FilterToken)
  | [] => []
  | e :: rest => exprTokens f e :: exprsTokens f rest

end

theorem exprsTokens_eq (f : Formatter) (items : List Expr) :
    f.exprsTokens items = items.map f.exprTokens := by
  induction items with
  | nil => rfl
  | cons e items ih => rw [exprsTokens, ih, List.map_cons]

theorem exprTokens_join (f : Formatter) (c : Connective) (items : List Expr) :
    f.exprTokens (c.expr items) =
      .opening :: ([.connective c].intercalate (items.map f.exprTokens) ++ [.closing]) := by
  rw [← exprsTokens_eq]
  cases c <;> rfl

/-- The tokens of a filter give its formula, with the texts of its leaves. -/
theorem parses_exprTokens (f : Formatter) (h : IsFilter e) :
    Parses (f.exprTokens e) (e.formula.map f.leafText) := by
  induction h with
  | compare op left right hl hr => exact parses_leaf _
  | oneOf subject values hs each => exact parses_leaf _
  | join c items nonempty each ih =>
    cases items with
    | nil => exact absurd rfl nonempty
    | cons e items =>
      obtain ⟨first, rest⟩ := List.forall_mem_cons.1 ih
      rw [exprTokens_join, Expr.formula_join, Formula.map_chain, List.map_cons, List.map_map]
      refine parses_group c first ?_
      rw [List.forall₂_map_left_iff, List.forall₂_map_right_iff, List.forall₂_same]
      exact rest

/-! ## Words of operands -/

theorem solid_plain {cs : List Char} (h : ∀ c ∈ cs, Name.isSubsequent c) : Solid (plain cs) := by
  intro l member blank
  obtain ⟨c, mem, rfl⟩ := List.mem_map.1 member
  have subsequent := h c mem
  simp only [plain, List.map_cons, List.map_nil, List.mem_cons, List.not_mem_nil, or_false,
    Lexeme.char.injEq] at blank
  rcases blank with rfl | rfl | rfl <;> exact absurd subsequent (by decide)

theorem solid_of_parts {ls : List Lexeme} (h : ∀ l ∈ ls, Name.IsPart l) : Solid ls := by
  intro l member blank
  have part := h l member
  simp only [plain, List.map_cons, List.map_nil, List.mem_cons, List.not_mem_nil, or_false] at blank
  rcases blank with rfl | rfl | rfl <;> exact absurd part (by simp [Name.IsPart])

theorem composed_nested : Composed Nested where
  append := .append
  enclosed := .enclosed
  applied identifier hs := (solid_plain identifier).nested.append hs.enclosed
  name parts := (solid_of_parts parts).nested
  number numeric := by
    have outside {c : Char} (other : ¬ IsNumeric c) : .char c ∉ plain _ := fun member => by
      obtain ⟨d, mem, same⟩ := List.mem_map.1 member
      cases same
      exact other (numeric c mem)
    exact .of_not_mem (outside (by decide)) (outside (by decide))
  text content := .of_not_mem (by simp) (by simp)
  fixed s member := by
    have outside : ∀ s ∈ fixedTexts,
        .char '(' ∉ plain s.toList ∧ .char ')' ∉ plain s.toList := by decide
    exact .of_not_mem (outside s member).1 (outside s member).2

theorem nameLexemes_ne_nil (f : Formatter) (name : String) : f.nameLexemes name ≠ [] := by
  rw [nameLexemes, Name.lexemes]
  split
  · simp
  · cases split : Name.segments (f.writtenName name) with
    | nil => exact absurd split (by simpa [Name.segments] using Name.splitDots_ne_nil _)
    | cons part parts =>
      cases parts with
      | nil => simp
      | cons part' parts => simp [List.intercalate_cons_cons]

theorem isWord_name {name : String} (hf : f.Standard) (h : f.escapeName name = .ok t) :
    IsWord (f.nameLexemes name) := by
  have nonempty := nameLexemes_ne_nil f name
  refine .of_solid (solid_of_parts fun l => isPart_of_escapeName hf h) nonempty ?_
  obtain ⟨l, member⟩ := List.exists_mem_of_ne_nil _ nonempty
  refine connective?_eq_none member fun letter => ?_
  have part := isPart_of_escapeName hf h member
  simp only [plain, List.map_cons, List.map_nil, List.mem_cons, List.not_mem_nil, or_false] at letter
  rcases letter with rfl | rfl | rfl | rfl | rfl <;> exact absurd part (by simp [Name.IsPart])

theorem isWord_numeric {cs : List Char} (nonempty : cs ≠ []) (h : ∀ c ∈ cs, IsNumeric c) :
    IsWord (plain cs) := by
  have outside {c d : Char} (member : c ∈ cs) (other : ¬ IsNumeric d) : c ≠ d :=
    fun same => other (same ▸ h c member)
  refine .of_solid (fun l member blank => ?_) (by simpa [plain] using nonempty) ?_
  · obtain ⟨c, mem, rfl⟩ := List.mem_map.1 member
    simp only [plain, List.map_cons, List.map_nil, List.mem_cons, List.not_mem_nil, or_false,
      Lexeme.char.injEq] at blank
    rcases blank with rfl | rfl | rfl <;> exact absurd (h _ mem) (by decide)
  · obtain ⟨c, member⟩ := List.exists_mem_of_ne_nil _ nonempty
    refine connective?_eq_none (List.mem_map_of_mem member) fun letter => ?_
    simp only [plain, List.map_cons, List.map_nil, List.mem_cons, List.not_mem_nil, or_false,
      Lexeme.char.injEq] at letter
    rcases letter with rfl | rfl | rfl | rfl | rfl <;> exact absurd (h _ member) (by decide)

theorem isWord_region (q : Char) (content : List Char) : IsWord [.quoted q content] := by
  refine .of_solid (fun l member => ?_) (by simp) (connective?_eq_none List.mem_cons_self (by simp))
  obtain rfl := List.mem_singleton.1 member
  simp

theorem isWord_literal {v : Json} (single : ∀ items, v ≠ .arr items) : IsWord (literalLexemes v) := by
  cases v with
  | null => exact .of_solid (by decide) (by decide) (by decide)
  | bool b => cases b <;> exact .of_solid (by decide) (by decide) (by decide)
  | int n => exact isWord_numeric (intChars_ne_nil n) fun c => isNumeric_of_mem_intChars
  | float x => exact isWord_numeric (floatText_ne_nil x) fun c => isNumeric_of_mem_floatText
  | str s => exact isWord_region _ _
  | arr items => exact absurd rfl (single items)
  | obj members => exact isWord_region _ _

theorem isWord_operand (hf : f.Standard) (operand : IsOperand e) (h : f.Renders e t) :
    IsWord (f.exprLexemes e) := by
  cases operand with
  | name n => exact isWord_name hf h
  | param => exact .of_solid (by simp [exprLexemes, Solid, plain]) (by simp [exprLexemes]) rfl
  | literal v single => exact isWord_literal single
  | call function args each =>
    obtain ⟨accepted, ts, rendered, -⟩ := h.call
    have named : plain function.toList ≠ [] := by
      rw [hf.validator_eq] at accepted
      have identifier : Name.isIdentifier function.toList := accepted
      intro none
      rw [List.map_eq_nil_iff.1 none] at identifier
      cases identifier
    refine .applied (solid_plain fun c => isSubsequent_of_accepted hf accepted) named ?_
    exact composed_nested.listed (by decide) rendered fun e _ _ h => composed_nested.expr hf h

/-! ## Reading a filter back -/

theorem Renders.leafText_eq (hf : f.Standard) (h : f.Renders e t) : f.leafText e = t := by
  rw [leafText, ← (h.spelled hf).toList_eq, String.ofList_toList]

theorem Renders.items {c : Connective} {items : List Expr} (h : f.Renders (c.expr items) t) :
    ∀ e ∈ items, ∃ t, f.Renders e t := by
  cases c with
  | and =>
    obtain ⟨ts, each, -⟩ := h.and
    exact fun e => exists_renders each
  | or =>
    obtain ⟨ts, each, -⟩ := h.or
    exact fun e => exists_renders each

theorem exprLexemes_join (f : Formatter) (c : Connective) (items : List Expr) :
    f.exprLexemes (c.expr items) = enclosed (c.lexemes.intercalate (items.map f.exprLexemes)) := by
  rw [← exprsLexemes_eq]
  cases c <;> rfl

theorem readsAs_compare (hf : f.Standard) {op : CompareOp} {left right : Expr}
    (hl : IsOperand left) (hr : IsOperand right) (h : f.Renders (.compare op left right) t) :
    ReadsAs (f.exprLexemes (.compare op left right)) [.leaf (f.leafText (.compare op left right))] := by
  obtain ⟨l, r, renders, renders', -⟩ := h.compare
  have sign : IsWord (plain op.sign.toList) := by cases op <;> exact .of_solid (by decide) (by decide) rfl
  have last := isWord_operand hf hr renders'
  have whole : f.exprLexemes (.compare op left right) = f.exprLexemes left ++ .char ' ' ::
      (plain op.sign.toList ++ .char ' ' :: f.exprLexemes right) := by
    simp [exprLexemes, plain]
  rw [leafText, whole]
  exact .of_words (isWord_operand hf hl renders) sign last.nonempty last.connective?_eq
    (last.scan_eq _)

theorem readsAs_oneOf (hf : f.Standard) {subject : Expr} {values : List Expr}
    (hs : IsOperand subject) (h : f.Renders (.oneOf subject values) t) :
    ReadsAs (f.exprLexemes (.oneOf subject values)) [.leaf (f.leafText (.oneOf subject values))] := by
  obtain ⟨s, ts, renders, each, -⟩ := h.oneOf
  have keyword : IsWord (plain "IN".toList) := .of_solid (by decide) (by decide) rfl
  have inner : Nested (listed ", " (f.exprsLexemes values)) :=
    composed_nested.listed (by decide) each fun e _ _ h => composed_nested.expr hf h
  have whole : f.exprLexemes (.oneOf subject values) = f.exprLexemes subject ++ .char ' ' ::
      (plain "IN".toList ++ .char ' ' :: enclosed (listed ", " (f.exprsLexemes values))) := by
    simp [exprLexemes, plain]
  rw [leafText, whole]
  refine .of_words (isWord_operand hf hs renders) keyword (by simp [enclosed]) ?_ ?_
  · exact connective?_eq_none (l := .char '(') (by simp [enclosed]) (by decide)
  · exact scan_enclosed inner (by simp)

theorem readsAs_exprTokens (hf : f.Standard) (filter : IsFilter e) (h : f.Renders e t) :
    ReadsAs (f.exprLexemes e) (f.exprTokens e) := by
  induction filter generalizing t with
  | compare op left right hl hr => exact readsAs_compare hf hl hr h
  | oneOf subject values hs each => exact readsAs_oneOf hf hs h
  | join c items nonempty each ih =>
    cases items with
    | nil => exact absurd rfl nonempty
    | cons e items =>
      have reads : ∀ e' ∈ e :: items, ReadsAs (f.exprLexemes e') (f.exprTokens e') := by
        intro e' member
        obtain ⟨t', renders⟩ := h.items e' member
        exact ih e' member renders
      obtain ⟨first, rest⟩ := List.forall_mem_cons.1 reads
      rw [exprLexemes_join, exprTokens_join]
      refine .group (.joined c first ?_)
      rw [List.forall₂_map_left_iff, List.forall₂_map_right_iff, List.forall₂_same]
      exact rest

/-- Each leaf is read as what the formatter writes for it. -/
theorem map_formula (hf : f.Standard) (filter : IsFilter e) (h : f.Renders e t) :
    e.formula.map f.formatExpr = (e.formula.map f.leafText).map .ok := by
  have leaf {e : Expr} {t : String} (h : f.Renders e t) :
      (Formula.leaf e).map f.formatExpr = ((Formula.leaf e).map f.leafText).map .ok := by
    simp only [Formula.map, h.leafText_eq hf]
    rw [show f.formatExpr e = .ok t from h]
  induction filter generalizing t with
  | compare op left right hl hr => exact leaf h
  | oneOf subject values hs each => exact leaf h
  | join c items nonempty each ih =>
    cases items with
    | nil => exact absurd rfl nonempty
    | cons e items =>
      have maps : ∀ e' ∈ e :: items,
          e'.formula.map f.formatExpr = (e'.formula.map f.leafText).map .ok := by
        intro e' member
        obtain ⟨t', renders⟩ := h.items e' member
        exact ih e' member renders
      obtain ⟨first, rest⟩ := List.forall_mem_cons.1 maps
      rw [Expr.formula_join, Formula.map_chain, Formula.map_chain, Formula.map_chain, first,
        List.map_map, List.map_map, List.map_map]
      congr 1
      exact List.map_congr_left rest

theorem readFormula_eq {ls : List Lexeme} {tokens : List FilterToken} {x : Formula String}
    (spelled : Spelled t ls) (reads : ReadsAs ls tokens)
    (parsed : (Reader.run {} tokens).bind Reader.finish = some x) : readFormula t = some x := by
  rw [readFormula, spelled.lex_eq]
  simp only [Option.bind_eq_bind, Option.bind_some, reads.scan_eq]
  exact parsed

theorem spelled_of_parenthesized {ls : List Lexeme} (h : Spelled (parenthesized t) (enclosed ls)) :
    Spelled t ls := by
  have whole := h.toList_eq
  simp only [parenthesized, enclosed, String.toList_append, spell_cons, spell_append, Lexeme.spelled,
    List.append_assoc] at whole
  refine ⟨List.append_cancel_right (List.append_cancel_left whole), ?_, ?_⟩
  · intro l member
    exact h.proper.each l (by simp [enclosed, member])
  · exact h.proper.apart.tail.left_of_append

theorem readFormula_join (hf : f.Standard) {c : Connective} {items : List Expr}
    (filter : IsFilter (c.expr items)) (h : f.Renders (c.expr items) (parenthesized t)) :
    readFormula t = some ((c.expr items).formula.map f.leafText) := by
  have spelled := h.spelled hf
  rw [exprLexemes_join] at spelled
  obtain ⟨nonempty, each⟩ := filter.of_join
  cases items with
  | nil => exact absurd rfl nonempty
  | cons e items =>
    have reads : ∀ e' ∈ e :: items, ReadsAs (f.exprLexemes e') (f.exprTokens e') := by
      intro e' member
      obtain ⟨t', renders⟩ := h.items e' member
      exact readsAs_exprTokens hf (each e' member) renders
    have parsed : ∀ e' ∈ e :: items, Parses (f.exprTokens e') (e'.formula.map f.leafText) :=
      fun e' member => parses_exprTokens f (each e' member)
    obtain ⟨reads, reads'⟩ := List.forall_mem_cons.1 reads
    obtain ⟨parsed, parsed'⟩ := List.forall_mem_cons.1 parsed
    rw [Expr.formula_join, Formula.map_chain, List.map_map]
    have reading : List.Forall₂ ReadsAs (items.map f.exprLexemes) (items.map f.exprTokens) := by
      rw [List.forall₂_map_left_iff, List.forall₂_map_right_iff, List.forall₂_same]
      exact reads'
    have parsing : List.Forall₂ Parses (items.map f.exprTokens)
        (items.map (Formula.map f.leafText ∘ Expr.formula)) := by
      rw [List.forall₂_map_left_iff, List.forall₂_map_right_iff, List.forall₂_same]
      exact parsed'
    exact readFormula_eq (spelled_of_parenthesized spelled) (.joined c reads reading)
      (finish_joined c parsed parsing)

theorem renders_of_formatFilter {c : Connective} {items : List Expr}
    (h : f.formatFilter (c.expr items) = .ok t) : f.Renders (c.expr items) (parenthesized t) := by
  cases c with
  | and =>
    obtain ⟨ts, each, connected⟩ := bind_eq_ok.1 h
    exact bind_eq_ok.2 ⟨ts, each, bind_eq_ok.2 ⟨t, connected, rfl⟩⟩
  | or =>
    obtain ⟨ts, each, connected⟩ := bind_eq_ok.1 h
    exact bind_eq_ok.2 ⟨ts, each, bind_eq_ok.2 ⟨t, connected, rfl⟩⟩

/-- The text of a filter is read as a formula over its leaves with its meaning. -/
theorem readFormula_formatFilter (hf : f.Standard) (filter : IsFilter e)
    (h : f.formatFilter e = .ok t) :
    ∃ (F : Formula Expr) (G : Formula String), readFormula t = some G ∧
      F.map f.formatExpr = G.map .ok ∧ ∀ v, F.eval v = e.holds v := by
  have single (same : f.formatFilter e = f.formatExpr e) :
      readFormula t = some (e.formula.map f.leafText) ∧
        e.formula.map f.formatExpr = (e.formula.map f.leafText).map .ok := by
    have renders : f.Renders e t := same.symm.trans h
    exact ⟨readFormula_eq (renders.spelled hf) (readsAs_exprTokens hf filter renders)
      (parses_exprTokens f filter).finish, map_formula hf filter renders⟩
  have meaning : readFormula t = some (e.formula.map f.leafText) ∧
      e.formula.map f.formatExpr = (e.formula.map f.leafText).map .ok := by
    cases filter with
    | compare op left right hl hr => exact single rfl
    | oneOf subject values hs each => exact single rfl
    | join c items nonempty each =>
      have renders := renders_of_formatFilter h
      exact ⟨readFormula_join hf (.join c items nonempty each) renders,
        map_formula hf (.join c items nonempty each) renders⟩
  exact ⟨e.formula, e.formula.map f.leafText, meaning.1, meaning.2, filter.eval_formula⟩

/-- A connective in a literal, and a function with the name of one, are no connectives. -/
theorem readFormula_quoted_connective :
    ∃ (F : Formula Expr) (G : Formula String),
      readFormula "(\"title\" = ''' OR (' OR \"id\" IN (?)) AND AND(\"price\") < 9" = some G ∧
      F.map cql.formatExpr = G.map .ok ∧
      ∀ v, F.eval v = Expr.holds v (.and [
        .or [.compare .eq (.name "title") (.literal (.str "' OR (")), .oneOf (.name "id") [.param]],
        .compare .lt (.call "AND" [.name "price"]) (.literal (.int 9))]) := by
  refine readFormula_formatFilter cql_standard ?_ rfl
  refine .join .and _ (by simp) (List.forall_mem_cons.2 ⟨.join .or _ (by simp) ?_, ?_⟩)
  · refine List.forall_mem_cons.2 ⟨.compare _ _ _ (.name _) (.literal _ (by simp)), ?_⟩
    exact List.forall_mem_singleton.2 (.oneOf _ _ (.name _) (List.forall_mem_singleton.2 .param))
  · refine List.forall_mem_singleton.2 (.compare _ _ _ (.call _ _ ?_) (.literal _ (by simp)))
    exact List.forall_mem_singleton.2 (.name _)

end Formatter

end CqlClient
