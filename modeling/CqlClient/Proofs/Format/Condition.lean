import CqlClient.Proofs.Format.Alias
import CqlClient.Proofs.Format.Filter
import CqlClient.Proofs.Format.Writing

/-!
# Conditions are readable

Names, parameters and literals without parts are words, and a function is a word before parentheses.
A condition is an operand with what is said of it, or conditions joined in parentheses. What comes
next always tells where such a part ends, so that operands, conditions and filters are readable.
-/

namespace CqlClient

/-- Neither the star nor qualified. -/
def Name.IsPlain (name : String) : Prop := name ≠ "*" ∧ '.' ∉ name.toList

instance (name : String) : Decidable (Name.IsPlain name) := inferInstanceAs (Decidable (_ ∧ _))

inductive IsAtom : Expr → Prop where
  | name (n : String) (plain : Name.IsPlain n) : IsAtom (.name n)
  | param : IsAtom .param
  | null : IsAtom (.literal .null)
  | bool (b : Bool) : IsAtom (.literal (.bool b))
  | int (n : Int) : IsAtom (.literal (.int n))
  | text (s : String) : IsAtom (.literal (.str s))

inductive IsPlainOperand : Expr → Prop where
  | atom {e : Expr} (h : IsAtom e) : IsPlainOperand e
  | call (function : String) (args : List Expr) (each : ∀ e ∈ args, IsPlainOperand e) :
    IsPlainOperand (.call function args)

/-- Operands, comparisons and tests of membership, and two or more such conditions joined. -/
inductive IsCondition : Expr → Prop where
  | operand {e : Expr} (h : IsPlainOperand e) : IsCondition e
  | compare (op : CompareOp) (left right : Expr) (hl : IsPlainOperand left)
    (hr : IsPlainOperand right) : IsCondition (.compare op left right)
  | oneOf (subject : Expr) (values : List Expr) (hs : IsPlainOperand subject)
    (each : ∀ e ∈ values, IsPlainOperand e) : IsCondition (.oneOf subject values)
  | join (c : Connective) (items : List Expr) (several : 2 ≤ items.length)
    (each : ∀ e ∈ items, IsCondition e) : IsCondition (c.expr items)

namespace Formatter

open Writing

/-! ## Atoms -/

theorem nameLexemes_of_isPlain {name : String} (h : Name.IsPlain name) :
    cql.nameLexemes name = [.quoted '"' name.toList] := by
  have whole : splitDots name.toList = [name.toList] := Name.splitDots_of_not_mem h.2
  have simple : Name.isQualified name = false := by simp [Name.isQualified, whole]
  have written : cql.writtenName name = name := by simp [writtenName, cql, simple]
  rw [nameLexemes, written, Name.lexemes, if_neg h.1, Name.segments, whole]
  simp

def readWord (cs : List Char) : Option Expr :=
  if cs = ['?'] then some .param
  else if cs = ['N', 'U', 'L', 'L'] then some (.literal .null)
  else if cs = ['t', 'r', 'u', 'e'] then some (.literal (.bool true))
  else if cs = ['f', 'a', 'l', 's', 'e'] then some (.literal (.bool false))
  else (Text.intOfDigits? cs).map fun n => .literal (.int n)

def readAtom : List Lexeme → Option Expr
  | [.quoted q content] =>
    if q = '"' then some (.name (String.ofList content))
    else some (.literal (.str (String.ofList content)))
  | ls => readWord (spell ls)

theorem readWord_intChars (n : Int) : readWord (Text.intChars n) = some (.literal (.int n)) := by
  have other {cs : List Char} (word : Text.intOfDigits? cs = none) : Text.intChars n ≠ cs := by
    rintro rfl
    rw [intOfDigits?_intChars] at word
    cases word
  rw [readWord, if_neg (other (by decide)), if_neg (other (by decide)), if_neg (other (by decide)),
    if_neg (other (by decide)), intOfDigits?_intChars]
  rfl

theorem readAtom_plain (cs : List Char) : readAtom (plain cs) = readWord cs := by
  rw [readAtom, spell_plain]
  intro q content same
  have member : .quoted q content ∈ plain cs := same ▸ List.mem_singleton_self _
  exact quoted_not_mem_plain member

theorem readAtom_exprLexemes {e : Expr} (h : IsAtom e) : readAtom (cql.exprLexemes e) = some e := by
  cases h with
  | name n plain =>
    rw [exprLexemes, nameLexemes_of_isPlain plain]
    simp [readAtom]
  | param => rfl
  | null => rfl
  | bool b => cases b <;> rfl
  | int n => exact (readAtom_plain _).trans (readWord_intChars n)
  | text s => simp [exprLexemes, literalLexemes, readAtom]

theorem exprLexemes_ne_nil {e : Expr} (h : IsAtom e) : cql.exprLexemes e ≠ [] := by
  intro none
  have read := readAtom_exprLexemes h
  rw [none] at read
  cases read

/-! ## Operands -/

/-- The characters that stand in no word. -/
def breaks : List Char := [' ', ',', ')', '(', '*']

theorem not_mem_breaks {P : Char → Prop} [DecidablePred P] (outside : breaks.all (¬ P ·))
    {cs : List Char} (h : ∀ c ∈ cs, P c) : ∀ l ∈ plain cs, l ∉ plain breaks := by
  intro l member ends
  obtain ⟨c, inside, rfl⟩ := List.mem_map.1 member
  obtain ⟨d, among, same⟩ := List.mem_map.1 ends
  cases same
  exact of_decide_eq_true (List.all_eq_true.1 outside c among) (h c inside)

theorem not_mem_breaks_of_isAtom {e : Expr} (h : IsAtom e) :
    ∀ l ∈ cql.exprLexemes e, l ∉ plain breaks := by
  cases h with
  | name n plain =>
    rw [exprLexemes, nameLexemes_of_isPlain plain]
    simp
  | param => decide
  | null => decide
  | bool b => cases b <;> decide
  | int n => exact not_mem_breaks (by decide) fun c => isNumeric_of_mem_intChars
  | text s => simp [exprLexemes, literalLexemes]

def operand : Writing Expr Lexeme where
  write := cql.exprLexemes
  covers e := IsPlainOperand e ∧ ∃ t, cql.Renders e t
  follows := StartsIn (plain [' ', ',', ')'])

def operands : Writing (List Expr) Lexeme := operand.listed (plain ", ".toList)

theorem startsIn_breaks {r : List Lexeme} (h : operand.follows r) : StartsIn (plain breaks) r :=
  h.mono (by decide)

theorem write_call (function : String) (args : List Expr) :
    operand.write (.call function args) = plain function.toList ++ operands.grouped.write args := by
  simp only [operand, operands, Writing.grouped, Writing.listed, exprLexemes, Formatter.listed,
    exprsLexemes_eq]

theorem startsIn_grouped {α : Type} (W : Writing α Lexeme) (a : α) (r : List Lexeme) :
    StartsIn (plain breaks) (W.grouped.write a ++ r) :=
  show .char '(' ∈ plain breaks by decide

structure IsFunction (function : String) : Prop where
  nonempty : function.toList ≠ []
  word : ∀ l ∈ plain function.toList, l ∉ plain breaks

theorem covers_call {function : String} {args : List Expr}
    (h : operand.covers (.call function args)) :
    IsFunction function ∧ ∀ e ∈ args, operand.covers e := by
  obtain ⟨plain, t, renders⟩ := h
  obtain ⟨accepted, ts, rendered, -⟩ := renders.call
  cases plain with
  | atom h => cases h
  | call _ _ each =>
    refine ⟨⟨fun none => ?_, ?_⟩, fun e member => ?_⟩
    · have identifier : Name.isIdentifier function.toList := accepted
      rw [none] at identifier
      cases identifier
    · exact not_mem_breaks (by decide) fun c => isSubsequent_of_accepted cql_standard accepted
    · exact ⟨each e member, exists_renders rendered member⟩

theorem exists_start {e : Expr} (h : operand.covers e) :
    ∃ l ls, operand.write e = l :: ls ∧ l ∉ plain breaks := by
  obtain ⟨plain, rendered⟩ := h
  cases plain with
  | atom h =>
    obtain ⟨l, ls, eq⟩ := List.exists_cons_of_ne_nil (exprLexemes_ne_nil h)
    exact ⟨l, ls, eq, not_mem_breaks_of_isAtom h l (eq ▸ List.mem_cons_self)⟩
  | call function args each =>
    obtain ⟨named, -⟩ := covers_call ⟨.call function args each, rendered⟩
    obtain ⟨c, cs, eq⟩ := List.exists_cons_of_ne_nil named.nonempty
    have word := named.word
    rw [eq] at word
    rw [write_call, eq]
    exact ⟨.char c, _, rfl, word _ List.mem_cons_self⟩

theorem not_startsIn_operand {e : Expr} (h : operand.covers e) (r : List Lexeme) :
    ¬ StartsIn (plain breaks) (operand.write e ++ r) := by
  obtain ⟨l, ls, eq, word⟩ := exists_start h
  rw [eq]
  exact word

theorem not_begins_operand {r : List Lexeme} (h : StartsIn (plain breaks) r) :
    ¬ operand.Begins r := by
  rintro ⟨e, s, covered, rfl⟩
  exact not_startsIn_operand covered s h

theorem operand_follows_comma (r : List Lexeme) : operand.follows (plain ", ".toList ++ r) :=
  show .char ',' ∈ plain [' ', ',', ')'] by decide

theorem operand_follows_blank {s : String} (h : s.toList.head? = some ' ') (r : List Lexeme) :
    operand.follows (plain s.toList ++ r) := by
  obtain ⟨cs, eq⟩ := List.head?_eq_some_iff.1 h
  rw [eq]
  exact show .char ' ' ∈ plain [' ', ',', ')'] by decide

theorem operands_follows_closing (r : List Lexeme) : operands.follows (.char ')' :: r) := by
  refine ⟨show .char ')' ∈ plain [' ', ',', ')'] by decide, fun starts => ?_,
    not_begins_operand (show .char ')' ∈ plain breaks by decide)⟩
  cases (List.cons_prefix_cons.1 starts).1

theorem plain_injective {cs ds : List Char} (h : plain cs = plain ds) : cs = ds := by
  have spelled := congrArg spell h
  rwa [spell_plain, spell_plain] at spelled

theorem reads_operand {e : Expr} (plain : IsPlainOperand e) (rendered : ∃ t, cql.Renders e t) :
    operand.Reads e := by
  -- A word ends at the first break; if that is a parenthesis, the arguments follow by induction.
  induction plain with
  | atom h =>
    rintro e' r s ⟨plain', rendered'⟩ hr hs eq
    have word := not_mem_breaks_of_isAtom h
    cases plain' with
    | atom h' =>
      obtain ⟨same, left⟩ := append_eq_of_run word (not_mem_breaks_of_isAtom h')
        (startsIn_breaks hr) (startsIn_breaks hs) eq
      have read := readAtom_exprLexemes h
      rw [same, readAtom_exprLexemes h'] at read
      exact ⟨(Option.some.inj read).symm, left⟩
    | call function args each =>
      obtain ⟨named, -⟩ := covers_call ⟨.call function args each, rendered'⟩
      rw [write_call, List.append_assoc] at eq
      obtain ⟨-, rfl⟩ := append_eq_of_run word named.word (startsIn_breaks hr)
        (startsIn_grouped operands args s) eq
      exact absurd (show .char '(' ∈ CqlClient.plain _ from hr) (by decide)
  | call function args each ih =>
    rintro e' r s ⟨plain', rendered'⟩ hr hs eq
    obtain ⟨named, covered⟩ := covers_call ⟨.call function args each, rendered⟩
    rw [write_call, List.append_assoc] at eq
    cases plain' with
    | atom h' =>
      obtain ⟨-, rfl⟩ := append_eq_of_run named.word (not_mem_breaks_of_isAtom h')
        (startsIn_grouped operands args r) (startsIn_breaks hs) eq
      exact absurd (show .char '(' ∈ CqlClient.plain _ from hs) (by decide)
    | call function' args' each' =>
      obtain ⟨named', covered'⟩ := covers_call ⟨.call function' args' each', rendered'⟩
      rw [write_call, List.append_assoc] at eq
      obtain ⟨same, left⟩ := append_eq_of_run named.word named'.word
        (startsIn_grouped operands args r) (startsIn_grouped operands args' s) eq
      obtain rfl := String.toList_injective (plain_injective same)
      have reads : operands.Reads args := reads_listed operand_follows_comma covered
        fun e member => ih e member (covered e member).2
      obtain ⟨rfl, rest⟩ := reads.grouped operands_follows_closing covered' trivial trivial left
      exact ⟨rfl, rest⟩

theorem operand_readable : operand.Readable := fun _ covered => reads_operand covered.1 covered.2

theorem operands_readable : operands.Readable := operand_readable.listed operand_follows_comma

/-! ## What is said of an operand -/

def spaced (word : String) : List Lexeme := plain (" " ++ word ++ " ").toList

theorem spaced_append {word word' : String} {r s : List Lexeme} (h : ' ' ∉ word.toList)
    (h' : ' ' ∉ word'.toList) (eq : spaced word ++ r = spaced word' ++ s) :
    word = word' ∧ r = s := by
  have split (word : String) (r : List Lexeme) :
      spaced word ++ r = .char ' ' :: (plain word.toList ++ (.char ' ' :: r)) := by
    simp [spaced, plain]
  have outside {word : String} (h : ' ' ∉ word.toList) :
      ∀ l ∈ plain word.toList, l ∉ [Lexeme.char ' '] := by
    intro l member blank
    obtain ⟨c, inside, rfl⟩ := List.mem_map.1 member
    cases List.mem_singleton.1 blank
    exact h inside
  have blank (r : List Lexeme) : StartsIn [.char ' '] (.char ' ' :: r) := List.mem_singleton_self _
  rw [split, split] at eq
  obtain ⟨same, left⟩ := append_eq_of_run (outside h) (outside h') (blank r) (blank s)
    (List.cons.inj eq).2
  exact ⟨String.toList_injective (plain_injective same), (List.cons.inj left).2⟩

theorem operand_follows_spaced (word : String) (r : List Lexeme) :
    operand.follows (spaced word ++ r) :=
  operand_follows_blank (by simp) r

/-- The words that may come after a condition. -/
def nextWords : List String := ["AND", "OR", "ORDER", "LIMIT"]

inductive EndsCondition : List Lexeme → Prop where
  | nil : EndsCondition []
  | closing (r : List Lexeme) : EndsCondition (.char ')' :: r)
  | word (word : String) (among : word ∈ nextWords) (r : List Lexeme) :
    EndsCondition (spaced word ++ r)

theorem EndsCondition.operand_follows {r : List Lexeme} (h : EndsCondition r) :
    operand.follows r := by
  cases h with
  | nil => trivial
  | closing r => exact show .char ')' ∈ plain [' ', ',', ')'] by decide
  | word word among r => exact operand_follows_spaced word r

theorem not_endsCondition_spaced {word : String} (h : ' ' ∉ word.toList) (other : word ∉ nextWords)
    (r : List Lexeme) : ¬ EndsCondition (spaced word ++ r) := by
  intro ends
  generalize eq : spaced word ++ r = s at ends
  cases ends with
  | nil => simp [spaced, plain] at eq
  | closing s => simp [spaced, plain] at eq
  | word word' among s =>
    have blankless : ∀ word ∈ nextWords, ' ' ∉ word.toList := by decide
    obtain ⟨rfl, -⟩ := spaced_append h (blankless word' among) eq
    exact other among

inductive Predicate where
  | bare
  | compare (op : CompareOp) (right : Expr)
  | oneOf (values : List Expr)

def Predicate.of (subject : Expr) : Predicate → Expr
  | .bare => subject
  | .compare op right => .compare op subject right
  | .oneOf values => .oneOf subject values

def predicate : Writing Predicate Lexeme where
  write
    | .bare => []
    | .compare op right => spaced op.sign ++ operand.write right
    | .oneOf values => spaced "IN" ++ operands.grouped.write values
  covers
    | .bare => True
    | .compare _ right => operand.covers right
    | .oneOf values => ∀ e ∈ values, operand.covers e
  follows := EndsCondition

theorem write_compare (op : CompareOp) (right : Expr) (r : List Lexeme) :
    predicate.write (.compare op right) ++ r = spaced op.sign ++ (operand.write right ++ r) :=
  List.append_assoc ..

theorem write_oneOf (values : List Expr) (r : List Lexeme) :
    predicate.write (.oneOf values) ++ r = spaced "IN" ++ (operands.grouped.write values ++ r) :=
  List.append_assoc ..

theorem operand_follows_predicate (a : Predicate) {r : List Lexeme} (h : EndsCondition r) :
    operand.follows (predicate.write a ++ r) := by
  cases a with
  | bare => exact h.operand_follows
  | compare op right =>
    rw [write_compare]
    exact operand_follows_spaced op.sign _
  | oneOf values =>
    rw [write_oneOf]
    exact operand_follows_spaced "IN" _

theorem sign_injective {op op' : CompareOp} (h : op.sign = op'.sign) : op = op' := by
  cases op <;> cases op' <;> first | rfl | exact absurd h (by decide)

theorem blank_not_mem_sign (op : CompareOp) : ' ' ∉ op.sign.toList := by cases op <;> decide

theorem bare_of_endsCondition {a : Predicate} {r s : List Lexeme} (h : EndsCondition s)
    (eq : predicate.write a ++ r = s) : a = .bare := by
  cases a with
  | bare => rfl
  | compare op right =>
    rw [write_compare] at eq
    have other : op.sign ∉ nextWords := by cases op <;> decide
    exact absurd (eq ▸ h) (not_endsCondition_spaced (blank_not_mem_sign op) other _)
  | oneOf values =>
    rw [write_oneOf] at eq
    exact absurd (eq ▸ h) (not_endsCondition_spaced (by decide) (by decide) _)

theorem predicate_readable : predicate.Readable := by
  have mixed {op : CompareOp} {r s : List Lexeme} : spaced op.sign ++ r ≠ spaced "IN" ++ s := by
    intro eq
    have word := (spaced_append (blank_not_mem_sign op) (by decide) eq).1
    cases op <;> exact absurd word (by decide)
  intro a covered b r s covered' hr hs eq
  cases a with
  | bare =>
    obtain rfl := bare_of_endsCondition hr eq.symm
    exact ⟨rfl, eq⟩
  | compare op right =>
    cases b with
    | bare => cases bare_of_endsCondition hs eq
    | compare op' right' =>
      rw [write_compare, write_compare] at eq
      obtain ⟨same, left⟩ := spaced_append (blank_not_mem_sign op) (blank_not_mem_sign op') eq
      obtain rfl := sign_injective same
      obtain ⟨rfl, rest⟩ := operand_readable right covered covered' hr.operand_follows
        hs.operand_follows left
      exact ⟨rfl, rest⟩
    | oneOf values' =>
      rw [write_compare, write_oneOf] at eq
      exact absurd eq mixed
  | oneOf values =>
    cases b with
    | bare => cases bare_of_endsCondition hs eq
    | compare op' right' =>
      rw [write_compare, write_oneOf] at eq
      exact absurd eq.symm mixed
    | oneOf values' =>
      rw [write_oneOf, write_oneOf] at eq
      obtain ⟨rfl, rest⟩ := operands_readable.grouped operands_follows_closing values covered
        covered' trivial trivial (List.append_cancel_left eq)
      exact ⟨rfl, rest⟩

/-! ## Conditions -/

def condition : Writing Expr Lexeme where
  write := cql.exprLexemes
  covers e := IsCondition e ∧ ∃ t, cql.Renders e t
  follows := EndsCondition

def conditions (c : Connective) : Writing (List Expr) Lexeme := condition.listed c.lexemes

theorem write_of (subject : Expr) (a : Predicate) :
    condition.write (a.of subject) = operand.write subject ++ predicate.write a := by
  cases a with
  | bare => exact (List.append_nil _).symm
  | compare op right => rfl
  | oneOf values =>
    simp only [condition, operand, predicate, Predicate.of, exprLexemes, operands, Writing.grouped,
      Writing.listed, Formatter.listed, exprsLexemes_eq]
    rfl

theorem write_join (c : Connective) (items : List Expr) :
    condition.write (c.expr items) = (conditions c).grouped.write items :=
  exprLexemes_join cql c items

/-- Conditions are operands with what is said of them, and conditions joined. -/
@[elab_as_elim]
theorem condition_induct {P : Expr → Prop}
    (of : ∀ subject a, operand.covers subject → predicate.covers a → P (a.of subject))
    (join : ∀ (c : Connective) (items : List Expr), 2 ≤ items.length →
      (∀ e ∈ items, condition.covers e) → (∀ e ∈ items, P e) → P (c.expr items))
    {e : Expr} (h : condition.covers e) : P e := by
  obtain ⟨plain, rendered⟩ := h
  induction plain with
  | operand h => exact of _ .bare ⟨h, rendered⟩ trivial
  | compare op left right hl hr =>
    obtain ⟨t, renders⟩ := rendered
    obtain ⟨l, r, renders, renders', -⟩ := renders.compare
    exact of left (.compare op right) ⟨hl, l, renders⟩ ⟨hr, r, renders'⟩
  | oneOf subject values hs each =>
    obtain ⟨t, renders⟩ := rendered
    obtain ⟨l, ts, renders, renders', -⟩ := renders.oneOf
    exact of subject (.oneOf values) ⟨hs, l, renders⟩
      fun e member => ⟨each e member, exists_renders renders' member⟩
  | join c items several each ih =>
    obtain ⟨t, renders⟩ := rendered
    exact join c items several (fun e member => ⟨each e member, renders.items e member⟩)
      fun e member => ih e member (renders.items e member)

theorem not_startsIn_condition {e : Expr} (h : condition.covers e) (r : List Lexeme) :
    ¬ StartsIn (plain [' ', ',', ')']) (condition.write e ++ r) := by
  refine condition_induct (fun subject a hs _ => ?_) (fun c items _ _ _ => ?_) h
  · rw [write_of, List.append_assoc]
    exact fun starts => not_startsIn_operand hs _ (startsIn_breaks starts)
  · rw [write_join]
    exact show .char '(' ∉ plain [' ', ',', ')'] by decide

theorem not_begins_condition {r : List Lexeme} (h : EndsCondition r) : ¬ condition.Begins r := by
  rintro ⟨e, s, covered, rfl⟩
  exact not_startsIn_condition covered s h.operand_follows

/-! ## Joined conditions -/

def keyword : Connective → String
  | .and => "AND"
  | .or => "OR"

theorem lexemes_eq (c : Connective) : c.lexemes = spaced (keyword c) := by cases c <;> decide

theorem eq_of_lexemes {c c' : Connective} {r s : List Lexeme}
    (eq : c.lexemes ++ r = c'.lexemes ++ s) : c = c' := by
  have blankless (c : Connective) : ' ' ∉ (keyword c).toList := by cases c <;> decide
  rw [lexemes_eq, lexemes_eq] at eq
  have same := (spaced_append (blankless c) (blankless c') eq).1
  cases c <;> cases c' <;> first | rfl | exact absurd same (by decide)

theorem endsCondition_lexemes (c : Connective) (r : List Lexeme) :
    EndsCondition (c.lexemes ++ r) := by
  rw [lexemes_eq]
  exact .word (keyword c) (by cases c <;> decide) r

def EndsFilter (r : List Lexeme) : Prop := EndsCondition r ∧ ∀ c : Connective, ¬ c.lexemes <+: r

theorem conditions_follows {r : List Lexeme} (h : EndsFilter r) (c : Connective) :
    (conditions c).follows r :=
  ⟨h.1, h.2 c, not_begins_condition h.1⟩

theorem endsFilter_closing (r : List Lexeme) : EndsFilter (.char ')' :: r) := by
  refine ⟨.closing r, fun c starts => ?_⟩
  cases (List.cons_prefix_cons.1 starts).1

/-- After the first of several conditions comes their connective. -/
theorem exists_first (c : Connective) {items : List Expr} (several : 2 ≤ items.length)
    (r : List Lexeme) :
    ∃ e ∈ items, ∃ s, (conditions c).write items ++ r = condition.write e ++ (c.lexemes ++ s) := by
  match items, several with
  | e :: e' :: rest, _ =>
    have first : (conditions c).write (e :: e' :: rest) ++ r =
        condition.write e ++ (condition.further c.lexemes (e' :: rest) ++ r) :=
      listed_cons e (e' :: rest) r
    rw [further_cons] at first
    exact ⟨e, List.mem_cons_self, _, first⟩

theorem reads_joined {c c' : Connective} {items items' : List Expr} {r s : List Lexeme}
    (several : 2 ≤ items.length) (several' : 2 ≤ items'.length)
    (covered : ∀ e ∈ items, condition.covers e) (covered' : ∀ e ∈ items', condition.covers e)
    (each : ∀ e ∈ items, condition.Reads e) (hr : EndsFilter r) (hs : EndsFilter s)
    (eq : (conditions c).write items ++ r = (conditions c').write items' ++ s) :
    c = c' ∧ items = items' ∧ r = s := by
  -- The connectives are compared first: what may follow a list of conditions depends on them.
  obtain rfl : c = c' := by
    obtain ⟨e, member, rest, first⟩ := exists_first c several r
    obtain ⟨e', member', rest', first'⟩ := exists_first c' several' s
    rw [first, first'] at eq
    exact eq_of_lexemes (each e member (covered' e' member') (endsCondition_lexemes c rest)
      (endsCondition_lexemes c' rest') eq).2
  have reads : (conditions c).Reads items := reads_listed (endsCondition_lexemes c) covered each
  exact ⟨rfl, reads covered' (conditions_follows hr c) (conditions_follows hs c) eq⟩

theorem write_group (c : Connective) (items : List Expr) (r : List Lexeme) :
    condition.write (c.expr items) ++ r =
      .char '(' :: ((conditions c).write items ++ .char ')' :: r) := by
  rw [write_join]
  simp [Writing.grouped, enclosed]

theorem operand_ne_group {subject : Expr} (h : operand.covers subject) (r s : List Lexeme) :
    operand.write subject ++ r ≠ .char '(' :: s := by
  intro eq
  have starts := not_startsIn_operand h r
  rw [eq] at starts
  exact starts (show .char '(' ∈ plain breaks by decide)

theorem reads_of {subject : Expr} {a : Predicate} (hs : operand.covers subject)
    (ha : predicate.covers a) : condition.Reads (a.of subject) := by
  intro e r s covered ends ends'
  refine condition_induct (fun subject' a' hs' ha' eq => ?_) (fun c items _ _ _ eq => ?_) covered
  · rw [write_of, write_of, List.append_assoc, List.append_assoc] at eq
    obtain ⟨rfl, left⟩ := operand_readable subject hs hs' (operand_follows_predicate a ends)
      (operand_follows_predicate a' ends') eq
    obtain ⟨rfl, rest⟩ := predicate_readable a ha ha' ends ends' left
    exact ⟨rfl, rest⟩
  · rw [write_of, write_group, List.append_assoc] at eq
    exact absurd eq (operand_ne_group hs _ _)

theorem reads_join {c : Connective} {items : List Expr} (several : 2 ≤ items.length)
    (covered : ∀ e ∈ items, condition.covers e) (each : ∀ e ∈ items, condition.Reads e) :
    condition.Reads (c.expr items) := by
  intro e r s covered' ends ends'
  refine condition_induct (fun subject a hs _ eq => ?_) (fun c' items' several' each' _ eq => ?_)
    covered'
  · rw [write_of, write_group, List.append_assoc] at eq
    exact absurd eq.symm (operand_ne_group hs _ _)
  · rw [write_group, write_group] at eq
    obtain ⟨rfl, rfl, closed⟩ := reads_joined several several' covered each' each
      (endsFilter_closing r) (endsFilter_closing s) (List.cons.inj eq).2
    exact ⟨rfl, (List.cons.inj closed).2⟩

theorem condition_readable : condition.Readable := by
  intro e covered
  exact condition_induct (fun subject a hs ha => reads_of hs ha)
    (fun c items several covered each => reads_join several covered each) covered

/-! ## Filters -/

/-- A condition, but without parentheses around an outermost connective. -/
def filter : Writing Expr Lexeme where
  write
    | .and items => (conditions .and).write items
    | .or items => (conditions .or).write items
    | e => condition.write e
  covers := condition.covers
  follows := EndsFilter

theorem filter_join (c : Connective) (items : List Expr) :
    filter.write (c.expr items) = (conditions c).write items := by
  cases c <;> rfl

theorem filter_cases {e : Expr} (h : condition.covers e) :
    filter.write e = condition.write e ∨ ∃ (c : Connective) (items : List Expr),
      2 ≤ items.length ∧ (∀ e ∈ items, condition.covers e) ∧ e = c.expr items := by
  refine condition_induct (fun subject a hs _ => .inl ?_)
    (fun c items several each _ => .inr ⟨c, items, several, each, rfl⟩) h
  cases a with
  | bare =>
    cases hs.1 with
    | atom atom => cases atom <;> rfl
    | call function args each => rfl
  | compare op right => rfl
  | oneOf values => rfl

theorem condition_ne_joined {e : Expr} (he : condition.covers e) {c : Connective}
    {items : List Expr} (several : 2 ≤ items.length) (covered : ∀ e ∈ items, condition.covers e)
    {r s : List Lexeme} (hr : EndsFilter r) :
    condition.write e ++ r ≠ (conditions c).write items ++ s := by
  intro eq
  obtain ⟨e', member, rest, first⟩ := exists_first c several s
  rw [first] at eq
  -- The first of the joined conditions would be all of `e`, and then their connective comes next.
  obtain ⟨-, rfl⟩ := condition_readable e he (covered e' member) hr.1
    (endsCondition_lexemes c rest) eq
  exact hr.2 c ⟨rest, rfl⟩

theorem filter_readable : filter.Readable := by
  intro e covered e' r s covered' hr hs eq
  rcases filter_cases covered with alone | ⟨c, items, several, each, rfl⟩
  · rw [alone] at eq
    rcases filter_cases covered' with alone' | ⟨c', items', several', each', rfl⟩
    · rw [alone'] at eq
      exact condition_readable e covered covered' hr.1 hs.1 eq
    · rw [filter_join] at eq
      exact absurd eq (condition_ne_joined covered several' each' hr)
  · rw [filter_join] at eq
    rcases filter_cases covered' with alone' | ⟨c', items', several', each', rfl⟩
    · rw [alone'] at eq
      exact absurd eq.symm (condition_ne_joined covered' several each hs)
    · rw [filter_join] at eq
      obtain ⟨rfl, rfl, left⟩ := reads_joined several several' each each'
        (fun e member => condition_readable e (each e member)) hr hs eq
      exact ⟨rfl, left⟩

/-! ## Their texts -/

theorem operand_spells {e : Expr} {t : String} (h : IsPlainOperand e) (renders : cql.Renders e t) :
    operand.Spells t e :=
  ⟨⟨h, t, renders⟩, renders.spelled cql_standard⟩

theorem filter_spells {e : Expr} {t : String} (h : IsCondition e)
    (formatted : cql.formatFilter e = .ok t) : filter.Spells t e := by
  have alone (same : cql.formatFilter e = cql.formatExpr e)
      (written : filter.write e = condition.write e) : filter.Spells t e := by
    have renders : cql.Renders e t := same.symm.trans formatted
    refine ⟨⟨h, t, renders⟩, ?_⟩
    rw [written]
    exact renders.spelled cql_standard
  cases h with
  | operand plain =>
    cases plain with
    | atom atom => cases atom <;> exact alone rfl rfl
    | call function args each => exact alone rfl rfl
  | compare op left right hl hr => exact alone rfl rfl
  | oneOf subject values hs each => exact alone rfl rfl
  | join c items several each =>
    have renders := renders_of_formatFilter formatted
    refine ⟨⟨.join c items several each, _, renders⟩, ?_⟩
    have whole := renders.spelled cql_standard
    rw [exprLexemes_join] at whole
    rw [filter_join]
    exact spelled_of_parenthesized whole

end Formatter

end CqlClient
