import CqlClient.Proofs.Error
import CqlClient.Proofs.Format.Alias

/-!
# Reduced names

CQL knows neither qualified names nor aliases of entities. `Query.reduced` takes both out of a query
beforehand, and by `format_reduced` this leaves the compiled statement as it is, whether every
column is to have an alias or not.
-/

namespace CqlClient

namespace Name

/-- The last part of a qualified name, and any other name as it is. -/
def reduced (name : String) : String := if isQualified name then member name else name

theorem isQualified_reduced (name : String) : isQualified (reduced name) = false := by
  rw [reduced]
  split
  · exact isQualified_member name
  · rename_i simple
    simpa using simple

theorem reduced_reduced (name : String) : reduced (reduced name) = reduced name := by
  rw [reduced, isQualified_reduced]
  rfl

/-! ## Accepted names are qualified or have one part -/

theorem not_mem_splitDots_of_isDotted {cs : List Char} :
    (isDotted true cs → [] ∉ splitDots cs) ∧ (isDotted false cs → [] ∉ (splitDots cs).tail) := by
  induction cs with
  | nil => exact ⟨fun h => by simp [isDotted] at h, fun _ => by simp [splitDots]⟩
  | cons c cs ih =>
    obtain ⟨fresh, begun⟩ := ih
    obtain ⟨part, parts, split⟩ := List.exists_cons_of_ne_nil (splitDots_ne_nil cs)
    rw [split] at begun
    constructor
    · intro h
      obtain ⟨initial, rest⟩ := Bool.and_eq_true_iff.1 h
      have other : c ≠ '.' := by
        rintro rfl
        exact absurd initial (by decide)
      rw [splitDots, if_neg other, split]
      simpa using begun rest
    · intro h
      rw [isDotted] at h
      rw [splitDots]
      by_cases dot : c = '.'
      · rw [if_pos dot] at h ⊢
        exact fresh h
      · rw [if_neg dot, Bool.and_eq_true] at h
        rw [if_neg dot, split]
        exact begun h.2

theorem one_lt_length_splitDots {cs : List Char} (h : '.' ∈ cs) : 1 < (splitDots cs).length := by
  induction cs with
  | nil => cases h
  | cons c cs ih =>
    rw [splitDots]
    by_cases dot : c = '.'
    · rw [if_pos dot, List.length_cons]
      have := List.length_pos_of_ne_nil (splitDots_ne_nil cs)
      omega
    · have later : '.' ∈ cs := (List.mem_cons.1 h).resolve_left (Ne.symm dot)
      obtain ⟨part, parts, split⟩ := List.exists_cons_of_ne_nil (splitDots_ne_nil cs)
      have longer := ih later
      rw [split] at longer
      rw [if_neg dot, split]
      exact longer

theorem isWord_of_isSubsequent {c : Char} (h : isSubsequent c) : Text.isWord c := by
  have ascii := (toNat_of_isSubsequent h).2
  rw [Text.isWord, if_pos (by omega)]
  exact h

theorem isQualified_of_isDotted {name : String} (h : isDotted true name.toList)
    (dot : '.' ∈ name.toList) : isQualified name := by
  simp only [isQualified, Bool.and_eq_true, decide_eq_true_eq, List.all_eq_true]
  refine ⟨one_lt_length_splitDots dot, fun part member => ⟨?_, fun c mem => ?_⟩⟩
  · have nonempty : part ≠ [] := fun empty => not_mem_splitDots_of_isDotted.1 h (empty ▸ member)
    simpa using nonempty
  · obtain ⟨inside, other⟩ := mem_of_mem_splitDots member mem
    exact isWord_of_isSubsequent (isSubsequent_of_isDotted h inside other)

theorem member_of_not_mem {name : String} (h : '.' ∉ name.toList) : member name = name := by
  simp [member, segments, splitDots_of_not_mem h]

end Name

/-! ## Reduced queries -/

mutual

def Expr.reduced : Expr → Expr
  | .name n => .name (Name.reduced n)
  | .literal v => .literal v
  | .param => .param
  | .compare op left right => .compare op left.reduced right.reduced
  | .and items => .and (Expr.reducedItems items)
  | .or items => .or (Expr.reducedItems items)
  | .oneOf subject values => .oneOf subject.reduced (Expr.reducedItems values)
  | .call function args => .call function (Expr.reducedItems args)

def Expr.reducedItems : List Expr → List Expr
  | [] => []
  | e :: rest => e.reduced :: Expr.reducedItems rest

end

theorem Expr.reducedItems_eq (items : List Expr) :
    Expr.reducedItems items = items.map Expr.reduced := by
  induction items with
  | nil => rfl
  | cons e items ih => rw [Expr.reducedItems, ih, List.map_cons]

def Entity.reduced (e : Entity) : Entity := { name := Name.reduced e.name }

def SelectField.reduced (field : SelectField) : SelectField where
  expr := field.expr.reduced
  aliasName := field.aliasName.map Name.reduced

def OrderKey.reduced (key : OrderKey) : OrderKey := { key with expr := key.expr.reduced }

def reducedPair (pair : String × Expr) : String × Expr := (Name.reduced pair.1, pair.2.reduced)

/-- The query without an alias of its entity and without qualifiers of names. -/
def Query.reduced : Query → Query
  | .select q => .select {
      entity := q.entity.reduced
      fields := q.fields.map SelectField.reduced
      filter := q.filter.map Expr.reduced
      orderBy := q.orderBy.map OrderKey.reduced
      limit := q.limit }
  | .insert q => .insert { entity := q.entity.reduced, values := q.values.map reducedPair }
  | .update q => .update {
      entity := q.entity.reduced
      assignments := q.assignments.map reducedPair
      filter := q.filter.map Expr.reduced }
  | .delete q => .delete { entity := q.entity.reduced, filter := q.filter.map Expr.reduced }

namespace Formatter

/-- The usual formatter for CQL, but it may be told to give every column an alias. -/
def aliasing (force : Bool) : Formatter := { forceAlias := force }

@[simp] theorem grammar_aliasing (force : Bool) : (aliasing force).grammar = .cql := rfl

@[simp] theorem forceAlias_aliasing (force : Bool) : (aliasing force).forceAlias = force := rfl

theorem aliasing_standard (force : Bool) : (aliasing force).Standard := ⟨rfl, rfl⟩

variable (b b' : Bool)

theorem escapeName_reduced (name : String) :
    (aliasing b).escapeName name = (aliasing b').escapeName (Name.reduced name) := by
  have written (force : Bool) (n : String) :
      (aliasing force).escapeName n = (aliasing b).quoteName (Name.reduced n) := rfl
  rw [written, written, Name.reduced_reduced]

theorem formatExprs_map {f g : Formatter} {items : List Expr}
    (h : ∀ e ∈ items, f.formatExpr e = g.formatExpr e.reduced) :
    f.formatExprs items = g.formatExprs (Expr.reducedItems items) := by
  induction items with
  | nil => rfl
  | cons e items ih =>
    obtain ⟨first, rest⟩ := List.forall_mem_cons.1 h
    rw [formatExprs, Expr.reducedItems, formatExprs, first, ih rest]

theorem formatExpr_reduced (e : Expr) :
    (aliasing b).formatExpr e = (aliasing b').formatExpr e.reduced := by
  induction e using Expr.induct with
  | name n => exact escapeName_reduced b b' n
  | literal v => rfl
  | param => rfl
  | compare op left right ihl ihr =>
    rw [formatExpr, Expr.reduced, formatExpr, ihl, ihr]
  | and items ih =>
    rw [formatExpr, Expr.reduced, formatExpr, formatExprs_map ih]
  | or items ih =>
    rw [formatExpr, Expr.reduced, formatExpr, formatExprs_map ih]
  | oneOf subject values ihs ih =>
    rw [formatExpr, Expr.reduced, formatExpr, ihs, formatExprs_map ih, Expr.reducedItems_eq,
      List.isEmpty_map]
  | call function args ih =>
    rw [formatExpr, Expr.reduced, formatExpr, formatExprs_map ih]
    rfl

theorem formatFilter_reduced (e : Expr) :
    (aliasing b).formatFilter e = (aliasing b').formatFilter e.reduced := by
  have items (es : List Expr) :
      (aliasing b).formatExprs es = (aliasing b').formatExprs (Expr.reducedItems es) :=
    formatExprs_map fun e _ => formatExpr_reduced b b' e
  cases e with
  | and es => simp only [formatFilter, Expr.reduced, items]
  | or es => simp only [formatFilter, Expr.reduced, items]
  | _ => exact formatExpr_reduced b b' _

/-! ## Fields -/

theorem member_of_escapeName {name t : String} (h : (aliasing b).escapeName name = .ok t)
    (simple : ¬ Name.isQualified name) (other : name ≠ "*") : Name.member name = name := by
  have written : (aliasing b).writtenName name = name := by
    simp [writtenName, aliasing, simple]
  rw [escapeName_eq, written] at h
  have dotted := (accepted_of_quoteName (aliasing_standard b) h).resolve_left other
  exact Name.member_of_not_mem fun dot => simple (Name.isQualified_of_isDotted dotted dot)

theorem formatAliased_name {name t : String} (h : (aliasing b).escapeName name = .ok t)
    (simple : ¬ Name.isQualified name) (place : FieldPlace) :
    (aliasing b).formatAliased { expr := .name name } place = .ok t ∨
      (aliasing b).formatAliased { expr := .name name } place = .ok (t ++ " AS " ++ t) := by
  have rendered : (aliasing b).formatExpr (.name name) = .ok t := h
  unfold formatAliased
  rw [rendered]
  cases place with
  | referenced => exact .inl rfl
  | selected =>
    by_cases forced : (b && name ≠ "*") = true
    · have other : name ≠ "*" := by simpa using (Bool.and_eq_true_iff.1 forced).2
      have same := member_of_escapeName b h simple other
      right
      simp only [bind, Except.bind, forceAlias_aliasing, forced, if_true, same, h]
    · left
      simp only [bind, Except.bind, forceAlias_aliasing, forced, Bool.false_eq_true, if_false]

/-- An alias that repeats the name goes away again. -/
theorem formatField_name (name : String) (place : FieldPlace) :
    (aliasing b).formatField { expr := .name name } place = (aliasing b).escapeName name := by
  unfold formatField
  simp only [grammar_aliasing]
  by_cases qualified : Name.isQualified name
  · rw [if_pos qualified]
    exact escapeName_member qualified
  · rw [if_neg qualified]
    cases escaped : (aliasing b).escapeName name with
    | error e =>
      have rendered : (aliasing b).formatExpr (.name name) = .error e := escaped
      rw [formatAliased, rendered]
      rfl
    | ok t =>
      have clean : ∀ c ∈ t.toList, ¬ Text.isBlank c :=
        fun c => not_isBlank_of_escapeName (aliasing_standard b) escaped
      rcases formatAliased_name b escaped qualified place with aliased | aliased
      · rw [aliased]
        exact congrArg Except.ok (collapseAlias_name clean)
      · rw [aliased]
        exact congrArg Except.ok (collapseAlias_aliased clean)

theorem formatAliased_some (f : Formatter) (e : Expr) (a : String) :
    f.formatAliased ⟨e, some a⟩ .selected = (do
      let text ← f.formatExpr e
      let name ← f.escapeName a
      .ok (text ++ " AS " ++ name)) :=
  rfl

theorem formatAliased_referenced (f : Formatter) (field : SelectField) :
    f.formatAliased field .referenced = f.formatExpr field.expr := by
  unfold formatAliased
  cases f.formatExpr field.expr <;> rfl

end Formatter

def SelectField.IsBare (field : SelectField) : Prop :=
  field.aliasName = none ∧ ∃ n, field.expr = .name n

theorem SelectField.isBare_reduced {field : SelectField} : field.reduced.IsBare ↔ field.IsBare := by
  obtain ⟨e, given⟩ := field
  cases e <;> simp [IsBare, reduced, Expr.reduced]

namespace Formatter

variable (b b' : Bool)

/-- Without an alias only a name is written in a way that depends on the formatter's options. -/
theorem formatAliased_none (f : Formatter) {e : Expr} (h : ∀ n, e ≠ .name n) (place : FieldPlace) :
    f.formatAliased ⟨e, none⟩ place = f.formatExpr e := by
  unfold formatAliased
  cases rendered : f.formatExpr e with
  | error err => rfl
  | ok text =>
    cases place with
    | referenced => rfl
    | selected =>
      cases e with
      | name n => exact absurd rfl (h n)
      | _ => rfl

theorem formatField_of_not_isBare {f : Formatter} (cql : f.grammar = .cql) {field : SelectField}
    (h : ¬ field.IsBare) (place : FieldPlace) :
    f.formatField field place = (do .ok (collapseAlias (← f.formatAliased field place))) := by
  obtain ⟨e, given⟩ := field
  unfold formatField
  rw [cql]
  cases given with
  | some a => rfl
  | none =>
    cases e with
    | name n => exact absurd ⟨rfl, n, rfl⟩ h
    | _ => rfl

theorem formatAliased_reduced {field : SelectField} (h : ¬ field.IsBare) (place : FieldPlace) :
    (aliasing b).formatAliased field place = (aliasing b').formatAliased field.reduced place := by
  have expr := formatExpr_reduced b b' field.expr
  cases place with
  | referenced =>
    rw [formatAliased_referenced, formatAliased_referenced, expr]
    rfl
  | selected =>
    -- Which alias a field is given depends on whether it is bare, and reduction leaves that alone.
    have h' : ¬ field.reduced.IsBare := fun bare => h (SelectField.isBare_reduced.1 bare)
    obtain ⟨e, given⟩ := field
    cases given with
    | some a =>
      rw [SelectField.reduced, Option.map_some, formatAliased_some, formatAliased_some, expr,
        escapeName_reduced b b' a]
    | none =>
      have other : ∀ n, e ≠ .name n := fun n same => h ⟨rfl, n, same⟩
      have other' : ∀ n, e.reduced ≠ .name n := fun n same => h' ⟨rfl, n, same⟩
      rw [SelectField.reduced, Option.map_none, formatAliased_none _ other,
        formatAliased_none _ other', expr]

theorem formatField_reduced (field : SelectField) (place : FieldPlace) :
    (aliasing b).formatField field place = (aliasing b').formatField field.reduced place := by
  by_cases bare : field.IsBare
  · obtain ⟨e, given⟩ := field
    obtain ⟨rfl, n, rfl⟩ := bare
    rw [formatField_name]
    exact (escapeName_reduced b b' n).trans (formatField_name b' _ place).symm
  · have bare' : ¬ field.reduced.IsBare := fun h => bare (SelectField.isBare_reduced.1 h)
    rw [formatField_of_not_isBare (grammar_aliasing b) bare,
      formatField_of_not_isBare (grammar_aliasing b') bare', formatAliased_reduced b b' bare]

/-! ## Queries -/

theorem formatFields_reduced (fields : List SelectField) :
    (aliasing b).formatFields fields =
      (aliasing b').formatFields (fields.map SelectField.reduced) := by
  have each : ((aliasing b).formatField · .selected) =
      ((aliasing b').formatField · .selected) ∘ SelectField.reduced := by
    funext field
    exact formatField_reduced b b' field .selected
  rw [formatFields, formatFields, List.isEmpty_map, List.mapM_map, each]

theorem whereClause_reduced (filter : Option Expr) :
    (aliasing b).whereClause filter = (aliasing b').whereClause (filter.map Expr.reduced) := by
  cases filter with
  | none => rfl
  | some e => rw [Option.map_some, whereClause, whereClause, formatFilter_reduced b b' e]

theorem formatOrderKey_reduced (key : OrderKey) :
    (aliasing b).formatOrderKey key = (aliasing b').formatOrderKey key.reduced := by
  rw [formatOrderKey, formatOrderKey, formatField_reduced b b']
  rfl

theorem orderClause_reduced (keys : List OrderKey) :
    (aliasing b).orderClause keys = (aliasing b').orderClause (keys.map OrderKey.reduced) := by
  have each : (aliasing b).formatOrderKey = (aliasing b').formatOrderKey ∘ OrderKey.reduced := by
    funext key
    exact formatOrderKey_reduced b b' key
  rw [orderClause, orderClause, List.isEmpty_map, List.mapM_map, each]

theorem formatPairs_reduced (pairs : List (String × Expr)) :
    (aliasing b).formatPairs pairs = (aliasing b').formatPairs (pairs.map reducedPair) := by
  induction pairs with
  | nil => rfl
  | cons pair pairs ih =>
    rw [List.map_cons, formatPairs, reducedPair, formatPairs, ih, escapeName_reduced b b' pair.1,
      formatExpr_reduced b b' pair.2]

theorem formatEntity_unaliased (e : Entity) :
    (aliasing b).formatEntity e.unaliased = (aliasing b').formatEntity e.reduced.unaliased := by
  have name := escapeName_reduced b b' e.name
  simp only [formatEntity, Entity.unaliased, Entity.reduced, name]

theorem formatSelect_reduced (q : SelectQuery) :
    (aliasing b).format (.select q) = (aliasing b').format (Query.select q).reduced := by
  simp only [format, Query.reduced, formatSelect, grammar_aliasing, formatFields_reduced b b',
    formatEntity_unaliased b b', whereClause_reduced b b', orderClause_reduced b b']

theorem formatDelete_reduced (q : DeleteQuery) :
    (aliasing b).format (.delete q) = (aliasing b').format (Query.delete q).reduced := by
  simp only [format, Query.reduced, formatDelete, Entity.reduced,
    ← escapeName_reduced b b' q.entity.name, whereClause_reduced b b']

/-- Without values the message names the entity as the query does; there only the kind agrees. -/
theorem formatInsert_reduced (q : InsertQuery) :
    ((aliasing b).format (.insert q)).mapError CqlError.kind =
      ((aliasing b').format (Query.insert q).reduced).mapError CqlError.kind := by
  simp only [format, Query.reduced, formatInsert, List.isEmpty_map, Entity.reduced,
    ← formatPairs_reduced b b', ← escapeName_reduced b b' q.entity.name]
  by_cases empty : q.values.isEmpty = true
  · simp only [empty, if_true]
    rfl
  · simp only [empty, Bool.false_eq_true, if_false]

theorem formatUpdate_reduced (q : UpdateQuery) :
    ((aliasing b).format (.update q)).mapError CqlError.kind =
      ((aliasing b').format (Query.update q).reduced).mapError CqlError.kind := by
  simp only [format, Query.reduced, formatUpdate, List.isEmpty_map, Entity.reduced,
    ← formatPairs_reduced b b', ← escapeName_reduced b b' q.entity.name,
    ← whereClause_reduced b b']
  by_cases empty : q.assignments.isEmpty = true
  · simp only [empty, if_true]
    rfl
  · simp only [empty, Bool.false_eq_true, if_false]

/-- Qualifiers, aliases of the entity and forced aliases leave no trace in a compiled statement, nor
in whether and how its compilation fails. -/
theorem format_reduced (q : Query) :
    ((aliasing b).format q).mapError CqlError.kind =
      ((aliasing b').format q.reduced).mapError CqlError.kind := by
  cases q with
  | select q => rw [formatSelect_reduced b b']
  | insert q => exact formatInsert_reduced b b' q
  | update q => exact formatUpdate_reduced b b' q
  | delete q => rw [formatDelete_reduced b b']

end Formatter

end CqlClient
