import CqlClient.Proofs.Format.Alias

/-!
# Slots of compiled statements

A statement is read from left to right outside and inside its quoted regions. By
`lex_format` the reader ends outside every region, and meets the parameters and texts of the query
in their order, each text with just the characters that the query gives it. CQL is free of this only
where a text of a select list or a sort key can be taken for an alias.
-/

namespace CqlClient

/-! ## Texts and their slots -/

def Silent (s : String) : Prop := s.toList ≠ [] ∧ Quoteless s.toList ∧ '?' ∉ s.toList

instance (s : String) : Decidable (Silent s) :=
  inferInstanceAs (Decidable (s.toList ≠ [] ∧ Quoteless s.toList ∧ '?' ∉ s.toList))

/-- A reader of the text meets these slots and ends outside every region. -/
def Carries (t : String) (slots : List Slot) : Prop := ∃ ls, Spelled t ls ∧ slotsOf ls = slots

namespace Carries

variable {s t u : String} {a b : List Slot}

theorem lex_eq (h : Carries t a) : (lex t.toList).map slotsOf = some a := by
  obtain ⟨ls, spelled, rfl⟩ := h
  rw [spelled.lex_eq, Option.map_some]

theorem of_quoteless (h : Quoteless t.toList) (free : '?' ∉ t.toList) : Carries t [] :=
  ⟨_, .of_quoteless h, slotsOf_plain free⟩

theorem between (h : Silent s) (ht : Carries t a) (hu : Carries u b) :
    Carries (t ++ (s ++ u)) (a ++ b) := by
  obtain ⟨ls, spelled, rfl⟩ := ht
  obtain ⟨ms, spelled', rfl⟩ := hu
  refine ⟨_, spelled.between h.1 h.2.1 spelled', ?_⟩
  rw [slotsOf_append, slotsOf_append, slotsOf_plain h.2.2, List.nil_append]

theorem prepend (h : Silent s) (ht : Carries t a) : Carries (s ++ t) a := by
  obtain ⟨ls, spelled, rfl⟩ := ht
  exact ⟨_, spelled.prepend h.2.1, by rw [slotsOf_append, slotsOf_plain h.2.2, List.nil_append]⟩

theorem followed (h : Silent s) (ht : Carries t a) : Carries (t ++ s) a := by
  obtain ⟨ls, spelled, rfl⟩ := ht
  have ending : Spelled "" [] := ⟨rfl, .nil⟩
  refine ⟨_, by simpa using spelled.between h.1 h.2.1 ending, ?_⟩
  rw [slotsOf_append, slotsOf_plain h.2.2, List.append_nil]

theorem parenthesized (ht : Carries t a) : Carries (Formatter.parenthesized t) a := by
  obtain ⟨ls, spelled, rfl⟩ := ht
  exact ⟨_, Formatter.parenthesized_spelled spelled, slotsOf_enclosed ls⟩

theorem intercalate {ts : List String} {slotss : List (List Slot)} (h : Silent s)
    (each : List.Forall₂ Carries ts slotss) : Carries (s.intercalate ts) slotss.flatten := by
  obtain ⟨lss, spelled, rfl⟩ :
      ∃ lss, List.Forall₂ Spelled ts lss ∧ lss.map slotsOf = slotss := by
    induction each with
    | nil => exact ⟨[], .nil, rfl⟩
    | cons head _ ih =>
      obtain ⟨ls, first, rfl⟩ := head
      obtain ⟨lss, rest, rfl⟩ := ih
      exact ⟨ls :: lss, .cons first rest, rfl⟩
  refine ⟨_, .intercalate h.1 h.2.1 spelled, ?_⟩
  rw [slotsOf_intercalate h.2.2, List.flatMap_def]

end Carries

/-- A part of a statement that may be missing: it can stand after any other. -/
def IsClause (u : String) (b : List Slot) : Prop :=
  ∀ {t : String} {a : List Slot}, Carries t a → Carries (t ++ u) (a ++ b)

theorem isClause_empty : IsClause "" [] := by
  intro t a h
  simpa using h

theorem isClause_of_silent {s u : String} {b : List Slot} (h : Silent s) (hu : Carries u b) :
    IsClause (s ++ u) b :=
  fun ht => .between h ht hu

theorem isClause_parenthesized {u : String} {b : List Slot} (hu : Carries u b) :
    IsClause (Formatter.parenthesized u) b := by
  intro t a ht
  have closed := ht.between (s := "(") (by decide) (hu.followed (s := ")") (by decide))
  simpa [Formatter.parenthesized, String.append_assoc] using closed

/-! ## Slots of a query -/

def filterSlots : Option Expr → List Slot
  | none => []
  | some filter => filter.slots

/-- The parameters and texts of a query, in the order of its statement. -/
def Query.slots : Query → List Slot
  | .select q =>
    q.fields.flatMap (·.expr.slots) ++ filterSlots q.filter ++ q.orderBy.flatMap (·.expr.slots)
  | .insert q => q.values.flatMap (·.2.slots)
  | .update q => q.assignments.flatMap (·.2.slots) ++ filterSlots q.filter
  | .delete q => filterSlots q.filter

def Expr.HasNoText (e : Expr) : Prop := ∀ s, .text s ∉ e.slots

def Query.ListsNoText : Query → Prop
  | .select q => (∀ field ∈ q.fields, field.expr.HasNoText) ∧ ∀ key ∈ q.orderBy, key.expr.HasNoText
  | _ => True

namespace Formatter

variable {f : Formatter} {e : Expr} {t : String}

theorem Renders.carries (hf : f.Standard) (h : f.Renders e t) : Carries t e.slots :=
  ⟨_, h.spelled hf, h.slotsOf_eq hf⟩

theorem escapeName_carries {name : String} (hf : f.Standard) (h : f.escapeName name = .ok t) :
    Carries t [] :=
  ⟨_, escapeName_spelled hf h, slotsOf_nameLexemes hf h⟩

theorem connect_carries (hf : f.Standard) {operator : String} (h : Silent (" " ++ operator ++ " "))
    {items : List Expr} (rendered : (do connect operator (← f.formatExprs items)) = .ok t) :
    Carries t (Expr.slotsOfItems items) := by
  simp only [bind_eq_ok, formatExprs_eq_ok] at rendered
  obtain ⟨ts, each, connected⟩ := rendered
  obtain ⟨-, rfl⟩ := connect_eq_ok connected
  rw [Expr.slotsOfItems_eq, List.flatMap_def]
  refine .intercalate h ?_
  rw [List.forall₂_map_right_iff]
  exact forall₂_of_mem (fun e _ _ renders => renders.carries hf) each

theorem formatFilter_carries (hf : f.Standard) (h : f.formatFilter e = .ok t) :
    Carries t e.slots := by
  unfold formatFilter at h
  split at h
  · exact connect_carries hf (by decide) h
  · exact connect_carries hf (by decide) h
  · exact Renders.carries hf h

theorem whereClause_isClause (hf : f.Standard) {filter : Option Expr}
    (h : f.whereClause filter = .ok t) : IsClause t (filterSlots filter) := by
  cases filter with
  | none =>
    cases h
    exact isClause_empty
  | some filter =>
    simp only [whereClause, bind_eq_ok, Except.ok.injEq] at h
    obtain ⟨body, rendered, rfl⟩ := h
    exact isClause_of_silent (by decide) (formatFilter_carries hf rendered)

theorem limitClause_isClause (limit : Option Nat) : IsClause (limitClause limit) [] := by
  cases limit with
  | none => exact isClause_empty
  | some n =>
    refine isClause_of_silent (by decide) (.of_quoteless (fun c member => ?_) fun member => ?_)
    · exact not_isQuote_of_isNumeric (isNumeric_of_mem_toString member)
    · exact absurd (isNumeric_of_mem_toString member) (by decide)

/-! ## Fields -/

theorem aliased_carries (hf : f.Standard) {name u : String} {a : List Slot} (ht : Carries t a)
    (h : f.escapeName name = .ok u) : Carries (t ++ " AS " ++ u) a := by
  have joined := ht.between (s := " AS ") (by decide) (escapeName_carries hf h)
  rwa [List.append_nil, ← String.append_assoc] at joined

theorem formatAliased_carries (hf : f.Standard) {field : SelectField} {place : FieldPlace}
    (h : f.formatAliased field place = .ok t) : Carries t field.expr.slots := by
  simp only [formatAliased, bind_eq_ok] at h
  obtain ⟨text, rendered, h⟩ := h
  have carries : Carries text field.expr.slots := Renders.carries hf rendered
  split at h
  · cases h
    exact carries
  · simp only [bind_eq_ok, Except.ok.injEq] at h
    obtain ⟨name, escaped, rfl⟩ := h
    exact aliased_carries hf carries escaped
  · split at h
    · simp only [bind_eq_ok, Except.ok.injEq] at h
      obtain ⟨name, escaped, rfl⟩ := h
      exact aliased_carries hf carries escaped
    · cases h
      exact carries
  · cases h
    exact carries

theorem exists_aliasedOnce_of_formatAliased {field : SelectField} {place : FieldPlace}
    (h : cql.formatAliased field place = .ok t) : ∃ text, cql.aliasedOnce field place = .ok text := by
  simp only [formatAliased, bind_eq_ok] at h
  obtain ⟨text, rendered, h⟩ := h
  simp only [aliasedOnce, bind_eq_ok, rendered, Except.ok.injEq, exists_eq_left']
  cases place with
  | referenced => exact ⟨text, rfl⟩
  | selected =>
    cases given : field.aliasName with
    | none => exact ⟨text, rfl⟩
    | some a =>
      simp only [given, bind_eq_ok, Except.ok.injEq] at h
      obtain ⟨name, escaped, -⟩ := h
      exact ⟨_, bind_eq_ok.2 ⟨name, escaped, rfl⟩⟩

theorem exists_aliasedOnce {field : SelectField} {place : FieldPlace}
    (h : cql.formatField field place = .ok t) : ∃ text, cql.aliasedOnce field place = .ok text := by
  unfold formatField at h
  dsimp only [cql] at h
  split at h
  · rename_i n unaliased named
    split at h
    · rename_i qualified
      have escaped : cql.escapeName n = .ok t := escapeName_member qualified ▸ h
      refine ⟨t, bind_eq_ok.2 ⟨t, by rwa [named], ?_⟩⟩
      rw [unaliased]
      cases place <;> rfl
    · obtain ⟨u, aliased, -⟩ := bind_eq_ok.1 h
      exact exists_aliasedOnce_of_formatAliased aliased
  · obtain ⟨u, aliased, -⟩ := bind_eq_ok.1 h
    exact exists_aliasedOnce_of_formatAliased aliased

theorem aliasedOnce_carries {field : SelectField} {place : FieldPlace}
    (h : cql.aliasedOnce field place = .ok t) : Carries t field.expr.slots := by
  rcases aliasedOnce_eq_ok h with ⟨renders, -⟩ | ⟨u, a, name, renders, -, escaped, -, rfl⟩
  · exact renders.carries cql_standard
  · split
    · exact renders.carries cql_standard
    · exact aliased_carries cql_standard (renders.carries cql_standard) escaped

theorem formatField_carries {field : SelectField} {place : FieldPlace}
    (hf : f = neutral ∨ f = cql ∧ field.expr.HasNoText) (h : f.formatField field place = .ok t) :
    Carries t field.expr.slots := by
  rcases hf with rfl | ⟨rfl, textless⟩
  · exact formatAliased_carries neutral_standard h
  · obtain ⟨text, once⟩ := exists_aliasedOnce h
    have same := formatField_eq_aliasedOnce once fun s slot => absurd slot (textless s)
    obtain rfl : t = text := Except.ok.inj (h.symm.trans same)
    exact aliasedOnce_carries once

/-! ## Queries -/

section Queries

variable (hf : f.Standard)
include hf

theorem formatEntity_carries {entity : Entity} (h : f.formatEntity entity = .ok t) :
    Carries t [] := by
  simp only [formatEntity, bind_eq_ok] at h
  obtain ⟨name, escaped, h⟩ := h
  have carries := escapeName_carries hf escaped
  split at h
  · simp only [bind_eq_ok, Except.ok.injEq] at h
    obtain ⟨a, escaped, rfl⟩ := h
    exact aliased_carries hf carries escaped
  · cases h
    exact carries

theorem formatPairs_carries {values : List (String × Expr)} {pairs : List (String × String)}
    (h : f.formatPairs values = .ok pairs) :
    List.Forall₂ (fun pair value => Carries pair.1 [] ∧ Carries pair.2 value.2.slots) pairs
      values := by
  induction values generalizing pairs with
  | nil =>
    cases h
    exact .nil
  | cons value values ih =>
    simp only [formatPairs, bind_eq_ok, Except.ok.injEq] at h
    obtain ⟨column, escaped, text, rendered, pairs, rest, rfl⟩ := h
    exact .cons ⟨escapeName_carries hf escaped, Renders.carries hf rendered⟩ (ih rest)

theorem formatInsert_carries {q : InsertQuery} (h : f.formatInsert q = .ok t) :
    Carries t (Query.insert q).slots := by
  rw [formatInsert] at h
  split at h
  · cases h
  · simp only [bind_eq_ok, Except.ok.injEq] at h
    obtain ⟨pairs, formatted, entity, escaped, rfl⟩ := h
    have each := formatPairs_carries hf formatted
    have columns : Carries (commaSeparated (pairs.map Prod.fst))
        (q.values.map fun _ => []).flatten := by
      refine .intercalate (by decide) ?_
      rw [List.forall₂_map_left_iff, List.forall₂_map_right_iff]
      exact each.imp fun pair value both => both.1
    have values : Carries (commaSeparated (pairs.map Prod.snd)) (Query.insert q).slots := by
      rw [Query.slots, List.flatMap_def]
      refine .intercalate (by decide) ?_
      rw [List.forall₂_map_left_iff, List.forall₂_map_right_iff]
      exact each.imp fun pair value both => both.2
    have target : Carries ("INSERT INTO " ++ entity) [] :=
      (escapeName_carries hf escaped).prepend (by decide)
    have row := (isClause_parenthesized columns target).between (s := " VALUES ") (by decide)
      values.parenthesized
    simpa [String.append_assoc] using row

theorem formatUpdate_carries {q : UpdateQuery} (h : f.formatUpdate q = .ok t) :
    Carries t (Query.update q).slots := by
  rw [formatUpdate] at h
  split at h
  · cases h
  · simp only [bind_eq_ok, Except.ok.injEq] at h
    obtain ⟨pairs, formatted, entity, escaped, filter, clause, rfl⟩ := h
    have each := formatPairs_carries hf formatted
    have assignments : Carries (commaSeparated (pairs.map fun pair => pair.1 ++ " = " ++ pair.2))
        (q.assignments.flatMap (·.2.slots)) := by
      rw [List.flatMap_def]
      refine .intercalate (by decide) ?_
      rw [List.forall₂_map_left_iff, List.forall₂_map_right_iff]
      refine each.imp fun pair value both => ?_
      have joined := both.1.between (s := " = ") (by decide) both.2
      rwa [List.nil_append, ← String.append_assoc] at joined
    have target : Carries ("UPDATE " ++ entity) [] :=
      (escapeName_carries hf escaped).prepend (by decide)
    have changes := target.between (s := " SET ") (by decide) assignments
    rw [List.nil_append, ← String.append_assoc] at changes
    exact whereClause_isClause hf clause changes

theorem formatDelete_carries {q : DeleteQuery} (h : f.formatDelete q = .ok t) :
    Carries t (Query.delete q).slots := by
  simp only [formatDelete, bind_eq_ok, Except.ok.injEq] at h
  obtain ⟨entity, escaped, filter, clause, rfl⟩ := h
  exact whereClause_isClause hf clause ((escapeName_carries hf escaped).prepend (by decide))

end Queries

theorem fields_carry {fields : List SelectField}
    (hf : f = neutral ∨ f = cql ∧ ∀ field ∈ fields, field.expr.HasNoText)
    (h : f.formatFields fields = .ok t) : Carries t (fields.flatMap (·.expr.slots)) := by
  rw [formatFields] at h
  split at h
  · rename_i empty
    obtain rfl := List.isEmpty_iff.1 empty
    cases h
    exact .of_quoteless (by decide) (by decide)
  · simp only [bind_eq_ok, Except.ok.injEq, mapM_eq_ok] at h
    obtain ⟨ts, each, rfl⟩ := h
    rw [List.flatMap_def]
    refine .intercalate (by decide) ?_
    rw [List.forall₂_map_right_iff]
    refine forall₂_of_mem (fun field member _ formatted => ?_) each
    exact formatField_carries (hf.imp_right (And.imp_right (· field member))) formatted

theorem orderClause_isClause {keys : List OrderKey}
    (hf : f = neutral ∨ f = cql ∧ ∀ key ∈ keys, key.expr.HasNoText)
    (h : f.orderClause keys = .ok t) : IsClause t (keys.flatMap (·.expr.slots)) := by
  rw [orderClause] at h
  split at h
  · rename_i empty
    obtain rfl := List.isEmpty_iff.1 empty
    cases h
    exact isClause_empty
  · simp only [bind_eq_ok, Except.ok.injEq, mapM_eq_ok] at h
    obtain ⟨ts, each, rfl⟩ := h
    refine isClause_of_silent (by decide) ?_
    rw [List.flatMap_def]
    refine .intercalate (by decide) ?_
    rw [List.forall₂_map_right_iff]
    refine forall₂_of_mem (fun key member _ formatted => ?_) each
    simp only [formatOrderKey, bind_eq_ok, Except.ok.injEq] at formatted
    obtain ⟨text, formatted, rfl⟩ := formatted
    have carries : Carries text key.expr.slots :=
      formatField_carries (hf.imp_right (And.imp_right (· key member))) formatted
    cases key.descending with
    | true => exact carries.followed (by decide)
    | false => exact carries.followed (by decide)

theorem standard_of {p : Prop} (hf : f = neutral ∨ f = cql ∧ p) : f.Standard := by
  rcases hf with rfl | ⟨rfl, -⟩
  · exact neutral_standard
  · exact cql_standard

theorem formatSelect_carries {q : SelectQuery}
    (hf : f = neutral ∨ f = cql ∧ (Query.select q).ListsNoText) (h : f.formatSelect q = .ok t) :
    Carries t (Query.select q).slots := by
  have standard := standard_of hf
  simp only [formatSelect, bind_eq_ok, Except.ok.injEq] at h
  obtain ⟨fields, formatted, entity, named, filter, clause, order, ordered, rfl⟩ := h
  have selected := fields_carry (hf.imp_right (And.imp_right And.left)) formatted
  have head := (selected.prepend (s := "SELECT ") (by decide)).between (s := " FROM ") (by decide)
    (formatEntity_carries standard named)
  rw [List.append_nil, ← String.append_assoc] at head
  have filtered := whereClause_isClause standard clause head
  have sorted := orderClause_isClause (hf.imp_right (And.imp_right And.right)) ordered filtered
  simpa [Query.slots] using limitClause_isClause q.limit sorted

/-- A compiled statement has the parameters and texts of its query, in order, and no others. -/
theorem lex_format {q : Query} (hf : f = neutral ∨ f = cql ∧ q.ListsNoText)
    (h : f.format q = .ok t) : (lex t.toList).map slotsOf = some q.slots := by
  have standard := standard_of hf
  refine Carries.lex_eq ?_
  cases q with
  | select q => exact formatSelect_carries hf h
  | insert q => exact formatInsert_carries standard h
  | update q => exact formatUpdate_carries standard h
  | delete q => exact formatDelete_carries standard h

/-- Quotes and question marks in a text do not end it and are no parameters. -/
theorem lex_format_quotes :
    ∃ t, cql.format (.select {
        entity := { name := "shop.products" }
        fields := [{ expr := .name "id" }]
        filter := some (.and [.compare .eq (.name "title") (.literal (.str "'? OR \"")),
          .oneOf (.name "id") [.param, .param]])
        orderBy := [{ expr := .name "id", descending := true }] }) = .ok t ∧
      (lex t.toList).map slotsOf = some [.text "'? OR \"", .param, .param] := by
  have carried {q : Query} (textless : q.ListsNoText) {t : String} (h : cql.format q = .ok t) :
      ∃ t, cql.format q = .ok t ∧ (lex t.toList).map slotsOf = some q.slots :=
    ⟨t, h, lex_format (.inr ⟨rfl, textless⟩) h⟩
  refine carried ?_ rfl
  simp [Query.ListsNoText, Expr.HasNoText, Expr.slots]

end Formatter

end CqlClient
