import CqlClient.Proofs.Format.Lexemes

/-!
# Slots of rendered expressions

The places of a statement that its author fills in: parameters, and the texts of its literals. A
text written by a formatter has, read from left to right, the slots of its expression.
-/

namespace CqlClient

inductive Slot where
  | param
  | text (content : String)
  deriving DecidableEq

def Lexeme.slot? : Lexeme → Option Slot
  | .char c => if c = '?' then some .param else none
  | .quoted q content => if q = '\'' then some (.text (String.ofList content)) else none

def slotsOf (ls : List Lexeme) : List Slot := ls.filterMap Lexeme.slot?

@[simp] theorem slotsOf_append (ls ms : List Lexeme) :
    slotsOf (ls ++ ms) = slotsOf ls ++ slotsOf ms :=
  List.filterMap_append

theorem slotsOf_plain {cs : List Char} (h : '?' ∉ cs) : slotsOf (plain cs) = [] := by
  rw [slotsOf, List.filterMap_eq_nil_iff]
  intro l member
  obtain ⟨c, mem, rfl⟩ := List.mem_map.1 member
  have other : c ≠ '?' := fun same => h (same ▸ mem)
  simp [Lexeme.slot?, other]

@[simp] theorem slotsOf_enclosed (ls : List Lexeme) : slotsOf (enclosed ls) = slotsOf ls := by
  have opening : slotsOf [.char '('] = [] := rfl
  have closing : slotsOf [.char ')'] = [] := rfl
  rw [enclosed, ← List.singleton_append, slotsOf_append, slotsOf_append, opening, closing]
  simp

theorem slotsOf_intercalate {cs : List Char} (h : '?' ∉ cs) (lss : List (List Lexeme)) :
    slotsOf ((plain cs).intercalate lss) = lss.flatMap slotsOf := by
  induction lss with
  | nil => rfl
  | cons ls lss ih =>
    cases lss with
    | nil => simp
    | cons ms lss =>
      rw [List.intercalate_cons_cons, slotsOf_append, slotsOf_append, slotsOf_plain h, ih]
      simp

/-! ## Slots of a tree -/

mutual

/-- The texts of a literal, from left to right; an object is its compact JSON text. -/
def Json.texts : Json → List String
  | .str s => [s]
  | .obj members => [(Json.obj members).text]
  | .arr items => Json.textsOfItems items
  | _ => []

def Json.textsOfItems : List Json → List String
  | [] => []
  | v :: rest => Json.texts v ++ Json.textsOfItems rest

end

mutual

/-- The parameters and texts of an expression, from left to right. -/
def Expr.slots : Expr → List Slot
  | .name _ => []
  | .literal v => v.texts.map .text
  | .param => [.param]
  | .compare _ left right => Expr.slots left ++ Expr.slots right
  | .and items => Expr.slotsOfItems items
  | .or items => Expr.slotsOfItems items
  | .oneOf subject values => Expr.slots subject ++ Expr.slotsOfItems values
  | .call _ args => Expr.slotsOfItems args

def Expr.slotsOfItems : List Expr → List Slot
  | [] => []
  | e :: rest => Expr.slots e ++ Expr.slotsOfItems rest

end

theorem Json.textsOfItems_eq (items : List Json) : textsOfItems items = items.flatMap texts := by
  induction items with
  | nil => rfl
  | cons v items ih => rw [textsOfItems, ih, List.flatMap_cons]

theorem Expr.slotsOfItems_eq (items : List Expr) : slotsOfItems items = items.flatMap slots := by
  induction items with
  | nil => rfl
  | cons e items ih => rw [slotsOfItems, ih, List.flatMap_cons]

/-! ## Slots of a rendered expression -/

theorem slotsOf_literalLexemes (v : Json) : slotsOf (literalLexemes v) = v.texts.map .text := by
  have numeric {cs : List Char} (h : ∀ c ∈ cs, IsNumeric c) : slotsOf (plain cs) = [] :=
    slotsOf_plain fun member => absurd (h _ member) (by decide)
  induction v using Json.induct with
  | null => exact slotsOf_plain (by decide)
  | bool b => cases b <;> exact slotsOf_plain (by decide)
  | int n => exact numeric fun c => isNumeric_of_mem_intChars
  | float x => exact numeric fun c => isNumeric_of_mem_floatText
  | str s => simp [literalLexemes, slotsOf, Lexeme.slot?, Json.texts]
  | arr items ih =>
    rw [literalLexemes, slotsOf_enclosed, slotsOf_intercalate (by decide), literalsLexemes_eq,
      Json.texts, Json.textsOfItems_eq, List.flatMap_map, List.map_flatMap]
    exact List.flatMap_congr ih
  | obj members => rfl

namespace Formatter

variable {f : Formatter} {e : Expr} {t : String}

theorem slotsOf_nameLexemes {name : String} (hf : f.Standard) (h : f.escapeName name = .ok t) :
    slotsOf (f.nameLexemes name) = [] := by
  rw [slotsOf, List.filterMap_eq_nil_iff]
  intro l member
  have part := isPart_of_escapeName hf h member
  cases l with
  | char c => rcases part with rfl | rfl <;> rfl
  | quoted q content =>
    obtain ⟨rfl, -⟩ := part
    rfl

theorem slotsOf_listed {separator : String} (h : '?' ∉ separator.toList) {items : List Expr}
    {ts : List String} (each : List.Forall₂ f.Renders items ts)
    (ih : ∀ e ∈ items, ∀ {t : String}, f.Renders e t → slotsOf (f.exprLexemes e) = e.slots) :
    slotsOf (listed separator (f.exprsLexemes items)) = Expr.slotsOfItems items := by
  rw [listed, slotsOf_intercalate h, exprsLexemes_eq, Expr.slotsOfItems_eq, List.flatMap_map]
  refine List.flatMap_congr fun e member => ?_
  obtain ⟨t, renders⟩ := exists_renders each member
  exact ih e member renders

theorem Renders.slotsOf_eq (hf : f.Standard) (h : f.Renders e t) :
    slotsOf (f.exprLexemes e) = e.slots := by
  induction e using Expr.induct generalizing t with
  | name n => exact slotsOf_nameLexemes hf h
  | literal v => exact slotsOf_literalLexemes v
  | param => rfl
  | compare op left right ihl ihr =>
    obtain ⟨l, r, hl, hr, -⟩ := h.compare
    have sign : slotsOf (plain (" " ++ op.sign ++ " ").toList) = [] :=
      slotsOf_plain (by cases op <;> decide)
    rw [exprLexemes, slotsOf_append, slotsOf_append, ihl hl, ihr hr, sign]
    rfl
  | and items ih =>
    obtain ⟨ts, each, -⟩ := h.and
    rw [exprLexemes, slotsOf_enclosed]
    exact slotsOf_listed (by decide) each ih
  | or items ih =>
    obtain ⟨ts, each, -⟩ := h.or
    rw [exprLexemes, slotsOf_enclosed]
    exact slotsOf_listed (by decide) each ih
  | oneOf subject values ihs ih =>
    obtain ⟨s, ts, hs, each, -⟩ := h.oneOf
    have keyword : slotsOf (plain " IN ".toList) = [] := slotsOf_plain (by decide)
    rw [exprLexemes, slotsOf_append, slotsOf_append, slotsOf_enclosed, ihs hs, keyword,
      slotsOf_listed (by decide) each ih]
    rfl
  | call function args ih =>
    obtain ⟨accepted, ts, each, -⟩ := h.call
    have head : slotsOf (plain function.toList) = [] :=
      slotsOf_plain fun member => absurd (isSubsequent_of_accepted hf accepted member) (by decide)
    rw [exprLexemes, slotsOf_append, slotsOf_enclosed, head,
      slotsOf_listed (by decide) each ih]
    rfl

end Formatter

end CqlClient
