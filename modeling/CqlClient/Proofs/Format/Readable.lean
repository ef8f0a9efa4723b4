import CqlClient.Proofs.Format.Condition
import CqlClient.Proofs.Format.Statement

/-!
# Compiled queries are readable

Each statement is written part by part, and each part is readable with what may come after it. So a
compiled statement determines its query, as long as the query has no qualified names, no alias that
is left out, and conditions only in its filter: `format_injective`.
-/

namespace CqlClient

def Entity.IsPlain (entity : Entity) : Prop := Name.IsPlain entity.name ∧ entity.aliasName = none

/-- An operand without texts; its alias is not its own name. -/
structure SelectField.IsPlain (field : SelectField) : Prop where
  operand : IsPlainOperand field.expr
  textless : field.expr.HasNoText
  aliased : ∀ a ∈ field.aliasName, Name.IsPlain a ∧ field.expr ≠ .name a

structure OrderKey.IsPlain (key : OrderKey) : Prop where
  operand : IsPlainOperand key.expr
  textless : key.expr.HasNoText

def IsAssignment (assignment : String × Expr) : Prop :=
  Name.IsPlain assignment.1 ∧ IsPlainOperand assignment.2

def Query.IsPlain : Query → Prop
  | .select q => q.entity.IsPlain ∧ (∀ field ∈ q.fields, field.IsPlain) ∧
    (∀ e ∈ q.filter, IsCondition e) ∧ ∀ key ∈ q.orderBy, key.IsPlain
  | .insert q => q.entity.IsPlain ∧ ∀ value ∈ q.values, IsAssignment value
  | .update q => q.entity.IsPlain ∧ (∀ assignment ∈ q.assignments, IsAssignment assignment) ∧
    ∀ e ∈ q.filter, IsCondition e
  | .delete q => q.entity.IsPlain ∧ ∀ e ∈ q.filter, IsCondition e

namespace Formatter

open Writing

/-! ## Columns and tables -/

def column : Writing String Lexeme where
  write name := [.quoted '"' name.toList]
  covers := Name.IsPlain
  follows _ := True

theorem column_readable : column.Readable := by
  intro name _ name' r s _ _ _ eq
  obtain ⟨same, left⟩ := List.cons.inj eq
  exact ⟨String.toList_injective (Lexeme.quoted.inj same).2, left⟩

theorem column_spells {name t : String} (h : Name.IsPlain name)
    (escaped : cql.escapeName name = .ok t) : column.Spells t name := by
  have spelled := escapeName_spelled cql_standard escaped
  rw [nameLexemes_of_isPlain h] at spelled
  exact ⟨h, spelled⟩

def columns : Writing (List String) Lexeme := column.listed (plain ", ".toList)

theorem not_begins_column {r : List Lexeme} (h : StartsIn (plain breaks) r) :
    ¬ column.Begins r := by
  rintro ⟨name, s, -, rfl⟩
  exact quoted_not_mem_plain h

theorem columns_readable : columns.Readable := column_readable.listed fun _ => trivial

def table : Writing Entity Lexeme where
  write entity := column.write entity.name
  covers := Entity.IsPlain
  follows _ := True

theorem table_readable : table.Readable := by
  rintro ⟨name, aliasName⟩ ⟨named, unaliased⟩ ⟨name', aliasName'⟩ r s ⟨named', unaliased'⟩ _ _ eq
  obtain ⟨rfl, left⟩ := column_readable name named named' trivial trivial eq
  obtain rfl : aliasName = none := unaliased
  obtain rfl : aliasName' = none := unaliased'
  exact ⟨rfl, left⟩

theorem table_spells {entity : Entity} {t : String} (h : entity.IsPlain)
    (escaped : cql.escapeName entity.name = .ok t) : table.Spells t entity :=
  ⟨h, (column_spells h.1 escaped).spelled⟩

/-! ## Select lists -/

def aliased : Writing (Option String) Lexeme := column.optional (plain " AS ".toList)

def selectField : Writing SelectField Lexeme :=
  (operand.pair aliased).via fun field => (field.expr, field.aliasName)

theorem selectField_readable : selectField.Readable := by
  refine (operand_readable.pair (column_readable.optional _)).via ?_
  rintro ⟨expr, aliasName⟩ ⟨expr', aliasName'⟩ same
  cases same
  rfl

theorem selectField_follows {r : List Lexeme} (h : operand.follows r)
    (other : ¬ plain " AS ".toList <+: r) : selectField.follows r := by
  refine ⟨⟨trivial, other⟩, fun o _ => ?_⟩
  cases o with
  | none => exact h
  | some a => exact (List.append_assoc ..).symm ▸ operand_follows_blank (by decide) _

def selectFields : Writing (List SelectField) Lexeme := selectField.listed (plain ", ".toList)

theorem selectFields_readable : selectFields.Readable :=
  selectField_readable.listed fun r => selectField_follows (operand_follows_comma r)
    (not_prefix_append 2 (by decide) r)

/-- A select list; without fields it is the star. -/
def selection : Writing (List SelectField) Lexeme where
  write
    | [] => [.char '*']
    | fields => selectFields.write fields
  covers := selectFields.covers
  follows := selectFields.follows

theorem star_ne_selectFields {field : SelectField} {fields : List SelectField}
    (covered : selectField.covers field) (r s : List Lexeme) :
    .char '*' :: r ≠ selectFields.write (field :: fields) ++ s := by
  intro eq
  have begins : selectField.Begins (.char '*' :: r) :=
    ⟨field, _, covered, eq.trans (listed_cons field fields s)⟩
  have star : StartsIn (plain breaks) (.char '*' :: r) := show .char '*' ∈ plain breaks by decide
  exact not_begins_operand star begins.of_via.of_pair

theorem selection_readable : selection.Readable := by
  intro fields covered fields' r s covered' hr hs eq
  cases fields with
  | nil =>
    cases fields' with
    | nil => exact ⟨rfl, (List.cons.inj eq).2⟩
    | cons field' fields' =>
      exact absurd eq (star_ne_selectFields (covered' field' List.mem_cons_self) r s)
  | cons field fields =>
    cases fields' with
    | nil => exact absurd eq.symm (star_ne_selectFields (covered field List.mem_cons_self) s r)
    | cons field' fields' => exact selectFields_readable _ covered covered' hr hs eq

/-! ## Clauses -/

def filtered : Writing (Option Expr) Lexeme := filter.optional (plain " WHERE ".toList)

def direction : Writing Bool Lexeme where
  write descending := plain (if descending then " DESC" else " ASC").toList
  covers _ := True
  follows _ := True

theorem direction_readable : direction.Readable := by
  intro b _ b' r s _ _ _ eq
  cases b <;> cases b' <;> simp_all [direction, plain]

def orderKey : Writing OrderKey Lexeme :=
  (operand.pair direction).via fun key => (key.expr, key.descending)

theorem orderKey_readable : orderKey.Readable := by
  refine (operand_readable.pair direction_readable).via ?_
  rintro ⟨expr, descending⟩ ⟨expr', descending'⟩ same
  cases same
  rfl

theorem orderKey_follows (r : List Lexeme) : orderKey.follows r := by
  refine ⟨trivial, fun b _ => ?_⟩
  cases b <;> exact operand_follows_blank (by decide) r

def orderKeys : Writing (List OrderKey) Lexeme := orderKey.listed (plain ", ".toList)

def ordered : Writing (List OrderKey) Lexeme :=
  (orderKeys.optional (plain " ORDER BY ".toList)).via fun keys =>
    if keys = [] then none else some keys

theorem ordered_readable : ordered.Readable := by
  have keys : orderKeys.Readable := orderKey_readable.listed fun r => orderKey_follows _
  refine (keys.optional _).via fun keys keys' same => ?_
  cases keys with
  | nil =>
    cases keys' with
    | nil => rfl
    | cons key' keys' => simp at same
  | cons key keys =>
    cases keys' with
    | nil => simp at same
    | cons key' keys' => simpa using same

def number : Writing Nat Lexeme where
  write n := plain (toString n).toList
  covers _ := True
  follows r := r = []

theorem number_readable : number.Readable := by
  rintro n _ m r s _ rfl rfl eq
  rw [List.append_nil, List.append_nil] at eq
  have same := plain_injective eq
  rw [Nat.toString_eq_repr, Nat.toString_eq_repr, Nat.toList_repr, Nat.toList_repr] at same
  have read := natOfDigits?_toDigits n
  rw [same, natOfDigits?_toDigits] at read
  exact ⟨(Option.some.inj read).symm, rfl⟩

def limited : Writing (Option Nat) Lexeme := number.optional (plain " LIMIT ".toList)

/-! ## Statements -/

def selectQuery : Writing SelectQuery Lexeme :=
  ((selection.pair ((table.after (plain " FROM ".toList)).pair
    (filtered.pair (ordered.pair limited)))).after (plain "SELECT ".toList)).via
    fun q => (q.fields, q.entity, q.filter, q.orderBy, q.limit)

def insertQuery : Writing InsertQuery Lexeme :=
  ((table.pair (columns.grouped.pair (operands.grouped.after (plain " VALUES ".toList)))).after
    (plain "INSERT INTO ".toList)).via
    fun q => (q.entity, q.values.map Prod.fst, q.values.map Prod.snd)

def assignment : Writing (String × Expr) Lexeme := column.pair (operand.after (plain " = ".toList))

def assignments : Writing (List (String × Expr)) Lexeme := assignment.listed (plain ", ".toList)

def updateQuery : Writing UpdateQuery Lexeme :=
  ((table.pair ((assignments.after (plain " SET ".toList)).pair filtered)).after
    (plain "UPDATE ".toList)).via
    fun q => (q.entity, q.assignments, q.filter)

def deleteQuery : Writing DeleteQuery Lexeme :=
  ((table.pair filtered).after (plain "DELETE FROM ".toList)).via fun q => (q.entity, q.filter)

def query : Writing Query Lexeme where
  write
    | .select q => selectQuery.write q
    | .insert q => insertQuery.write q
    | .update q => updateQuery.write q
    | .delete q => deleteQuery.write q
  covers
    | .select q => selectQuery.covers q
    | .insert q => insertQuery.covers q
    | .update q => updateQuery.covers q
    | .delete q => deleteQuery.covers q
  follows r := r = []

theorem selectQuery_readable : selectQuery.Readable := by
  refine ((selection_readable.pair ((table_readable.after _).pair
    ((filter_readable.optional _).pair (ordered_readable.pair
      (number_readable.optional _))))).after _).via ?_
  rintro ⟨⟩ ⟨⟩ same
  cases same
  rfl

theorem columns_follows_closing (r : List Lexeme) : columns.follows (.char ')' :: r) := by
  refine ⟨trivial, fun starts => ?_,
    not_begins_column (show .char ')' ∈ plain breaks by decide)⟩
  cases (List.cons_prefix_cons.1 starts).1

theorem insertQuery_readable : insertQuery.Readable := by
  refine ((table_readable.pair ((columns_readable.grouped columns_follows_closing).pair
    ((operands_readable.grouped operands_follows_closing).after _))).after _).via ?_
  rintro ⟨entity, values⟩ ⟨entity', values'⟩ same
  obtain ⟨rfl, columns, operands⟩ : entity = entity' ∧
      values.map Prod.fst = values'.map Prod.fst ∧ values.map Prod.snd = values'.map Prod.snd := by
    simpa using same
  obtain rfl : values = values' :=
    (List.zip_of_prod columns operands).trans (List.zip_of_prod rfl rfl).symm
  rfl

theorem assignments_readable : assignments.Readable :=
  (column_readable.pair (operand_readable.after _)).listed fun r =>
    ⟨operand_follows_comma r, fun _ _ => trivial⟩

theorem updateQuery_readable : updateQuery.Readable := by
  refine ((table_readable.pair ((assignments_readable.after _).pair
    (filter_readable.optional _))).after _).via ?_
  rintro ⟨⟩ ⟨⟩ same
  cases same
  rfl

theorem deleteQuery_readable : deleteQuery.Readable := by
  refine ((table_readable.pair (filter_readable.optional _)).after _).via ?_
  rintro ⟨⟩ ⟨⟩ same
  cases same
  rfl

/-! ## What follows what -/

theorem endsFilter_nil : EndsFilter [] := ⟨.nil, fun c => by cases c <;> decide⟩

theorem endsFilter_order (r : List Lexeme) : EndsFilter (plain " ORDER BY ".toList ++ r) := by
  refine ⟨.word "ORDER" (by decide) (plain "BY ".toList ++ r), fun c => ?_⟩
  -- Four characters, since ` OR ` is the same up to the third.
  cases c <;> exact not_prefix_append 4 (by decide) r

theorem endsFilter_limit (r : List Lexeme) : EndsFilter (plain " LIMIT ".toList ++ r) := by
  refine ⟨.word "LIMIT" (by decide) r, fun c => ?_⟩
  cases c <;> exact not_prefix_append 4 (by decide) r

theorem selection_follows (r : List Lexeme) : selection.follows (plain " FROM ".toList ++ r) := by
  have blank : operand.follows (plain " FROM ".toList ++ r) := operand_follows_blank (by decide) _
  exact ⟨selectField_follows blank (not_prefix_append 2 (by decide) r),
    not_prefix_append 2 (by decide) r,
    fun begins => not_begins_operand (startsIn_breaks blank) begins.of_via.of_pair⟩

theorem limited_follows : limited.follows [] := ⟨rfl, by decide⟩

theorem ordered_follows (n : Option Nat) : ordered.follows (limited.write n ++ []) := by
  have ends {r : List Lexeme} (blank : operand.follows r) (comma : ¬ plain ", ".toList <+: r)
      (order : ¬ plain " ORDER BY ".toList <+: r) : ordered.follows r :=
    ⟨⟨orderKey_follows r, comma,
      fun begins => not_begins_operand (startsIn_breaks blank) begins.of_via.of_pair⟩, order⟩
  rcases write_optional (plain " LIMIT ".toList) n [] with eq | ⟨rest, eq⟩
  · rw [limited, eq]
    exact ends trivial (by decide) (by decide)
  · rw [limited, eq]
    exact ends (operand_follows_blank (by decide) _) (not_prefix_append 2 (by decide) rest)
      (not_prefix_append 2 (by decide) rest)

theorem filtered_follows (keys : List OrderKey) (n : Option Nat) :
    filtered.follows ((ordered.pair limited).write (keys, n) ++ []) := by
  have parts : (ordered.pair limited).write (keys, n) ++ [] =
      ordered.write keys ++ (limited.write n ++ []) := List.append_assoc ..
  rw [parts]
  rcases write_optional (plain " ORDER BY ".toList) (if keys = [] then none else some keys)
    (limited.write n ++ []) with eq | ⟨rest, eq⟩
  · rw [ordered, Writing.via, eq]
    rcases write_optional (plain " LIMIT ".toList) n [] with eq | ⟨rest, eq⟩
    · rw [limited, eq]
      exact ⟨endsFilter_nil, by decide⟩
    · rw [limited, eq]
      exact ⟨endsFilter_limit rest, not_prefix_append 2 (by decide) rest⟩
  · rw [ordered, Writing.via, eq]
    exact ⟨endsFilter_order rest, not_prefix_append 2 (by decide) rest⟩

theorem selectQuery_follows : selectQuery.follows [] := by
  refine ⟨⟨⟨⟨limited_follows, fun n _ => ordered_follows n⟩, fun c _ => filtered_follows c.1 c.2⟩,
    fun _ _ => trivial⟩, fun c _ => ?_⟩
  rw [Writing.pair, Writing.after, List.append_assoc, List.append_assoc]
  exact selection_follows _

theorem insertQuery_follows : insertQuery.follows [] :=
  ⟨⟨trivial, fun _ _ => trivial⟩, fun _ _ => trivial⟩

theorem assignments_follows (o : Option Expr) : assignments.follows (filtered.write o ++ []) := by
  have ends {r : List Lexeme} (blank : operand.follows r) (comma : ¬ plain ", ".toList <+: r) :
      assignments.follows r :=
    ⟨⟨blank, fun _ _ => trivial⟩, comma,
      fun begins => not_begins_column (startsIn_breaks blank) begins.of_pair⟩
  rcases write_optional (plain " WHERE ".toList) o [] with eq | ⟨rest, eq⟩
  · rw [filtered, eq]
    exact ends trivial (by decide)
  · rw [filtered, eq]
    exact ends (operand_follows_blank (by decide) _)
      (not_prefix_append 2 (by decide) rest)

theorem updateQuery_follows : updateQuery.follows [] :=
  ⟨⟨⟨endsFilter_nil, by decide⟩, fun o _ => assignments_follows o⟩, fun _ _ => trivial⟩

theorem deleteQuery_follows : deleteQuery.follows [] :=
  ⟨⟨endsFilter_nil, by decide⟩, fun _ _ => trivial⟩

def initial : Query → Char
  | .select _ => 'S'
  | .insert _ => 'I'
  | .update _ => 'U'
  | .delete _ => 'D'

theorem initial_eq {q q' : Query} {r s : List Lexeme}
    (eq : query.write q ++ r = query.write q' ++ s) : initial q = initial q' := by
  have starts (q : Query) (r : List Lexeme) :
      ∃ ls, query.write q ++ r = .char (initial q) :: ls := by
    cases q <;> exact ⟨_, rfl⟩
  obtain ⟨ls, first⟩ := starts q r
  obtain ⟨ls', first'⟩ := starts q' s
  rw [first, first'] at eq
  exact Lexeme.char.inj (List.cons.inj eq).1

theorem query_readable : query.Readable := by
  rintro q covered q' r s covered' rfl rfl eq
  have same := initial_eq eq
  cases q with
  | select q =>
    cases q' with
    | select q' =>
      obtain ⟨rfl, -⟩ := selectQuery_readable q covered covered' selectQuery_follows
        selectQuery_follows eq
      exact ⟨rfl, rfl⟩
    | _ => simp [initial] at same
  | insert q =>
    cases q' with
    | insert q' =>
      obtain ⟨rfl, -⟩ := insertQuery_readable q covered covered' insertQuery_follows
        insertQuery_follows eq
      exact ⟨rfl, rfl⟩
    | _ => simp [initial] at same
  | update q =>
    cases q' with
    | update q' =>
      obtain ⟨rfl, -⟩ := updateQuery_readable q covered covered' updateQuery_follows
        updateQuery_follows eq
      exact ⟨rfl, rfl⟩
    | _ => simp [initial] at same
  | delete q =>
    cases q' with
    | delete q' =>
      obtain ⟨rfl, -⟩ := deleteQuery_readable q covered covered' deleteQuery_follows
        deleteQuery_follows eq
      exact ⟨rfl, rfl⟩
    | _ => simp [initial] at same

/-! ## Their texts -/

theorem aliasedOnce_of_formatField {field : SelectField} {place : FieldPlace} {t : String}
    (textless : field.expr.HasNoText) (formatted : cql.formatField field place = .ok t) :
    cql.aliasedOnce field place = .ok t := by
  obtain ⟨text, once⟩ := exists_aliasedOnce formatted
  have same := formatField_eq_aliasedOnce once fun s slot => absurd slot (textless s)
  obtain rfl : t = text := Except.ok.inj (formatted.symm.trans same)
  exact once

theorem selectField_spells {field : SelectField} {t : String} (h : field.IsPlain)
    (formatted : cql.formatField field .selected = .ok t) : selectField.Spells t field := by
  have once := aliasedOnce_of_formatField h.textless formatted
  obtain ⟨expr, aliasName⟩ := field
  simp only [aliasedOnce, bind_eq_ok] at once
  obtain ⟨u, renders, once⟩ := once
  have written := operand_spells h.operand renders
  have apart : aliased.Apart := apart_optional (by decide)
  cases aliasName with
  | none =>
    cases once
    have whole := written.pair (spells_none column (plain " AS ".toList)) apart
    rw [String.append_empty] at whole
    exact .via whole
  | some a =>
    obtain ⟨named, other⟩ := h.aliased a rfl
    obtain ⟨name, escaped, once⟩ := bind_eq_ok.1 once
    have differ : name ≠ u := by
      rintro rfl
      have bare : operand.Spells name (.name a) := operand_spells (.atom (.name a named)) escaped
      exact other (operand_readable.eq_of_spells trivial written bare)
    rw [if_neg differ] at once
    cases once
    have whole := written.pair ((column_spells named escaped).some (s := " AS ") (by decide)) apart
    rw [String.append_assoc]
    exact .via whole

theorem orderKey_spells {key : OrderKey} {t : String} (h : key.IsPlain)
    (formatted : cql.formatOrderKey key = .ok t) : orderKey.Spells t key := by
  simp only [formatOrderKey, bind_eq_ok, Except.ok.injEq] at formatted
  obtain ⟨u, formatted, rfl⟩ := formatted
  have once := aliasedOnce_of_formatField h.textless formatted
  obtain ⟨v, renders, once⟩ := bind_eq_ok.1 once
  cases once
  have apart : direction.Apart := by
    intro b m first
    cases b <;> cases first <;> exact id
  have directed : direction.Spells (if key.descending then " DESC" else " ASC") key.descending := by
    cases key.descending <;> exact ⟨trivial, .of_quoteless (by decide)⟩
  have whole := (operand_spells h.operand renders).pair directed apart
  exact .via whole

theorem selection_spells {fields : List SelectField} {t : String}
    (h : ∀ field ∈ fields, field.IsPlain) (formatted : cql.formatFields fields = .ok t) :
    selection.Spells t fields := by
  rw [formatFields] at formatted
  cases fields with
  | nil =>
    cases formatted
    exact ⟨by simp [selection, selectFields, Writing.listed], .of_quoteless (by decide)⟩
  | cons field fields =>
    rw [if_neg (by simp)] at formatted
    obtain ⟨ts, each, same⟩ := bind_eq_ok.1 formatted
    cases same
    have written : selectFields.Spells (commaSeparated ts) (field :: fields) := by
      refine .listed (by decide) (by decide) (forall₂_of_mem ?_ (mapM_eq_ok.1 each))
      exact fun field member _ => selectField_spells (h field member)
    exact ⟨written.covers, written.spelled⟩

theorem filtered_spells {o : Option Expr} {t : String} (h : ∀ e ∈ o, IsCondition e)
    (formatted : cql.whereClause o = .ok t) : filtered.Spells t o := by
  cases o with
  | none =>
    cases formatted
    exact spells_none filter _
  | some e =>
    obtain ⟨u, rendered, same⟩ := bind_eq_ok.1 formatted
    cases same
    exact (filter_spells (h e rfl) rendered).some (by decide)

theorem ordered_spells {keys : List OrderKey} {t : String} (h : ∀ key ∈ keys, key.IsPlain)
    (formatted : cql.orderClause keys = .ok t) : ordered.Spells t keys := by
  rw [orderClause] at formatted
  cases keys with
  | nil =>
    cases formatted
    exact .via (spells_none orderKeys _)
  | cons key keys =>
    rw [if_neg (by simp)] at formatted
    obtain ⟨ts, each, same⟩ := bind_eq_ok.1 formatted
    cases same
    have written : orderKeys.Spells (commaSeparated ts) (key :: keys) := by
      refine .listed (by decide) (by decide) (forall₂_of_mem ?_ (mapM_eq_ok.1 each))
      exact fun key member _ => orderKey_spells (h key member)
    have clause := written.some (s := " ORDER BY ") (by decide)
    exact .via clause

theorem limited_spells (n : Option Nat) : limited.Spells (limitClause n) n := by
  cases n with
  | none => exact spells_none number _
  | some n =>
    have quoteless : Quoteless (toString n).toList :=
      fun c member => not_isQuote_of_isNumeric (isNumeric_of_mem_toString member)
    have digits : number.Spells (toString n) n := ⟨trivial, .of_quoteless quoteless⟩
    exact digits.some (by decide)

theorem pairs_spell {values : List (String × Expr)} {pairs : List (String × String)}
    (h : ∀ value ∈ values, IsAssignment value) (formatted : cql.formatPairs values = .ok pairs) :
    List.Forall₂ (fun pair value => column.Spells pair.1 value.1 ∧ operand.Spells pair.2 value.2)
      pairs values := by
  induction values generalizing pairs with
  | nil =>
    cases formatted
    exact .nil
  | cons value values ih =>
    obtain ⟨first, rest⟩ := List.forall_mem_cons.1 h
    simp only [formatPairs, bind_eq_ok, Except.ok.injEq] at formatted
    obtain ⟨name, escaped, text, renders, pairs, formatted, rfl⟩ := formatted
    exact .cons ⟨column_spells first.1 escaped, operand_spells first.2 renders⟩ (ih rest formatted)

theorem selectQuery_spells {q : SelectQuery} {t : String} (h : (Query.select q).IsPlain)
    (formatted : cql.formatSelect q = .ok t) : selectQuery.Spells t q := by
  obtain ⟨named, listed, conditional, keyed⟩ := h
  simp only [formatSelect, bind_eq_ok, Except.ok.injEq] at formatted
  obtain ⟨fields, hf, entity, he, condition, hc, order, ho, rfl⟩ := formatted
  have target : table.Spells entity q.entity := by
    obtain ⟨name, escaped, same⟩ := bind_eq_ok.1 he
    cases same
    exact table_spells named escaped
  have last : limited.Apart := apart_optional (by decide)
  have later : (ordered.pair limited).Apart := .pair (fun keys => apart_optional (by decide) _) last
  have after : (filtered.pair (ordered.pair limited)).Apart :=
    .pair (apart_optional (by decide)) later
  have clauses := (filtered_spells conditional hc).pair
    ((ordered_spells keyed ho).pair (limited_spells q.limit) last) later
  have source := (target.after (s := " FROM ") (by decide)).pair clauses after
  have body := (selection_spells listed hf).pair source (.pair (apart_after (by decide)) after)
  have whole := body.after (s := "SELECT ") (by decide)
  simp only [String.append_assoc] at whole ⊢
  exact .via whole

theorem insertQuery_spells {q : InsertQuery} {t : String} (h : (Query.insert q).IsPlain)
    (formatted : cql.formatInsert q = .ok t) : insertQuery.Spells t q := by
  rw [formatInsert] at formatted
  split at formatted
  · cases formatted
  · simp only [bind_eq_ok, Except.ok.injEq] at formatted
    obtain ⟨pairs, formatted, entity, escaped, rfl⟩ := formatted
    have each := pairs_spell h.2 formatted
    have names : columns.Spells (commaSeparated (pairs.map Prod.fst)) (q.values.map Prod.fst) := by
      refine .listed (by decide) (by decide) ?_
      rw [List.forall₂_map_left_iff, List.forall₂_map_right_iff]
      exact each.imp fun pair value both => both.1
    have values :
        operands.Spells (commaSeparated (pairs.map Prod.snd)) (q.values.map Prod.snd) := by
      refine .listed (by decide) (by decide) ?_
      rw [List.forall₂_map_left_iff, List.forall₂_map_right_iff]
      exact each.imp fun pair value both => both.2
    have row := names.grouped.pair (values.grouped.after (s := " VALUES ") (by decide))
      (apart_after (by decide))
    have body := (table_spells h.1 escaped).pair row
      (.pair (apart_grouped _) (apart_after (by decide)))
    have whole := body.after (s := "INSERT INTO ") (by decide)
    simp only [String.append_assoc] at whole ⊢
    exact .via whole

theorem updateQuery_spells {q : UpdateQuery} {t : String} (h : (Query.update q).IsPlain)
    (formatted : cql.formatUpdate q = .ok t) : updateQuery.Spells t q := by
  rw [formatUpdate] at formatted
  split at formatted
  · cases formatted
  · simp only [bind_eq_ok, Except.ok.injEq] at formatted
    obtain ⟨pairs, formatted, entity, escaped, condition, hc, rfl⟩ := formatted
    have each := pairs_spell h.2.1 formatted
    have changes : assignments.Spells
        (commaSeparated (pairs.map fun pair => pair.1 ++ " = " ++ pair.2)) q.assignments := by
      refine .listed (by decide) (by decide) ?_
      rw [List.forall₂_map_left_iff]
      refine each.imp fun pair value both => ?_
      rw [String.append_assoc]
      exact both.1.pair (both.2.after (by decide)) (apart_after (by decide))
    have clauses := (changes.after (s := " SET ") (by decide)).pair (filtered_spells h.2.2 hc)
      (apart_optional (by decide))
    have body := (table_spells h.1 escaped).pair clauses
      (.pair (apart_after (by decide)) (apart_optional (by decide)))
    have whole := body.after (s := "UPDATE ") (by decide)
    simp only [String.append_assoc] at whole ⊢
    exact .via whole

theorem deleteQuery_spells {q : DeleteQuery} {t : String} (h : (Query.delete q).IsPlain)
    (formatted : cql.formatDelete q = .ok t) : deleteQuery.Spells t q := by
  simp only [formatDelete, bind_eq_ok, Except.ok.injEq] at formatted
  obtain ⟨entity, escaped, condition, hc, rfl⟩ := formatted
  have body := (table_spells h.1 escaped).pair (filtered_spells h.2 hc) (apart_optional (by decide))
  have whole := body.after (s := "DELETE FROM ") (by decide)
  simp only [String.append_assoc] at whole ⊢
  exact .via whole

theorem query_spells {q : Query} {t : String} (h : q.IsPlain) (formatted : cql.format q = .ok t) :
    query.Spells t q := by
  cases q with
  | select q =>
    have spells := selectQuery_spells h formatted
    exact ⟨spells.covers, spells.spelled⟩
  | insert q =>
    have spells := insertQuery_spells h formatted
    exact ⟨spells.covers, spells.spelled⟩
  | update q =>
    have spells := updateQuery_spells h formatted
    exact ⟨spells.covers, spells.spelled⟩
  | delete q =>
    have spells := deleteQuery_spells h formatted
    exact ⟨spells.covers, spells.spelled⟩

/-- Two plain queries that are compiled to the same statement are the same. -/
theorem format_injective {q q' : Query} {t : String} (plain : q.IsPlain) (plain' : q'.IsPlain)
    (h : cql.format q = .ok t) (h' : cql.format q' = .ok t) : q = q' :=
  query_readable.eq_of_spells rfl (query_spells plain h) (query_spells plain' h')

/-- A connective in a literal is none, and the alias, the condition and the limit are not lost. -/
theorem exists_unique_plain_query : ∃! q : Query, q.IsPlain ∧ cql.format q = .ok
    "SELECT max(\"id\") AS \"last\" FROM \"users\" WHERE \"age\" > -5 AND \"name\" IN (?, ' OR ') LIMIT 9" := by
  have named (name : String) (h : Name.IsPlain name) : IsPlainOperand (.name name) :=
    .atom (.name name h)
  have field : SelectField.IsPlain
      { expr := .call "max" [.name "id"], aliasName := some "last" } := by
    refine ⟨.call _ _ (by simpa using named "id" (by decide)), ?_, ?_⟩
    · simp [Expr.HasNoText, Expr.slots, Expr.slotsOfItems]
    · intro a given
      cases given
      exact ⟨by decide, by simp⟩
  have condition : IsCondition (.and [.compare .gt (.name "age") (.literal (.int (-5))),
      .oneOf (.name "name") [.param, .literal (.str " OR ")]]) := by
    refine .join .and _ (by simp) (List.forall_mem_cons.2 ⟨?_, List.forall_mem_singleton.2 ?_⟩)
    · exact .compare _ _ _ (named "age" (by decide)) (.atom (.int (-5)))
    · refine .oneOf _ _ (named "name" (by decide)) (List.forall_mem_cons.2 ⟨.atom .param, ?_⟩)
      exact List.forall_mem_singleton.2 (.atom (.text " OR "))
  have plain : Query.IsPlain (.select {
      entity := { name := "users" }
      fields := [{ expr := .call "max" [.name "id"], aliasName := some "last" }]
      filter := some (.and [.compare .gt (.name "age") (.literal (.int (-5))),
        .oneOf (.name "name") [.param, .literal (.str " OR ")]])
      limit := some 9 }) :=
    ⟨⟨by decide, rfl⟩, by simpa using field, by simpa using condition, by simp⟩
  exact ⟨_, ⟨plain, rfl⟩, fun q h => format_injective h.1 plain h.2 rfl⟩

end Formatter

end CqlClient
