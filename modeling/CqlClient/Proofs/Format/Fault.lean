import CqlClient.Format.Query
import CqlClient.Proofs.Error
import CqlClient.Proofs.Format.Lexemes

/-!
# Why a statement is not compiled

A formatter fails only because of what the query holds: a name it does not accept, or a list that
is empty where it must not be. `Refuses` says so of a computation, and it is handed on from the parts
of a query to the whole, whatever the grammar, the form of names and the validator.
-/

namespace CqlClient

/-- The computation fails, if at all, with a refusal. -/
def Refuses {α : Type} (x : Except CqlError α) : Prop := ∀ e, x = .error e → e.IsRefusal

namespace Refuses

variable {α β : Type}

theorem ok (a : α) : Refuses (.ok a) := by
  intro e failed
  cases failed

theorem configuration (fault : ConfigurationFault) :
    Refuses (.error (.configuration fault) : Except CqlError α) := by
  intro e failed
  cases failed
  exact .inl rfl

theorem render (fault : RenderFault) : Refuses (.error (.render fault) : Except CqlError α) := by
  intro e failed
  cases failed
  exact .inr rfl

theorem bind {x : Except CqlError α} {k : α → Except CqlError β} (hx : Refuses x)
    (hk : ∀ a, Refuses (k a)) : Refuses (x >>= k) := by
  intro e failed
  cases came : x with
  | error e' =>
    rw [came] at failed
    cases failed
    exact hx e came
  | ok a =>
    rw [came] at failed
    exact hk a e failed

theorem mapM {k : α → Except CqlError β} (hk : ∀ a, Refuses (k a)) (xs : List α) :
    Refuses (xs.mapM k) := by
  induction xs with
  | nil => exact ok []
  | cons x xs ih =>
    rw [List.mapM_cons]
    exact bind (hk x) fun y => bind ih fun ys => ok (y :: ys)

end Refuses

namespace Formatter

open Refuses

variable (f : Formatter)

/-! ## Expressions -/

theorem quoteName_refuses (name : String) : Refuses (f.quoteName name) := by
  unfold quoteName
  split
  · exact .ok _
  · split
    · exact .ok _
    · exact .configuration _

theorem escapeName_refuses (name : String) : Refuses (f.escapeName name) := by
  unfold escapeName
  split <;> exact f.quoteName_refuses _

theorem connect_refuses (operator : String) (items : List String) :
    Refuses (connect operator items) := by
  unfold connect
  split
  · exact .render _
  · exact .ok _

theorem formatExprs_refuses {items : List Expr} (h : ∀ e ∈ items, Refuses (f.formatExpr e)) :
    Refuses (f.formatExprs items) := by
  induction items with
  | nil => exact .ok _
  | cons e items ih =>
    obtain ⟨first, rest⟩ := List.forall_mem_cons.1 h
    rw [formatExprs]
    exact first.bind fun t => (ih rest).bind fun ts => .ok _

theorem formatExpr_refuses (e : Expr) : Refuses (f.formatExpr e) := by
  induction e using Expr.induct with
  | name n =>
    rw [formatExpr]
    exact f.escapeName_refuses n
  | literal v =>
    rw [formatExpr]
    exact .ok _
  | param =>
    rw [formatExpr]
    exact .ok _
  | compare op left right ihl ihr =>
    rw [formatExpr]
    exact ihl.bind fun t => ihr.bind fun u => .ok _
  | and items ih =>
    rw [formatExpr]
    exact (f.formatExprs_refuses ih).bind fun ts => (connect_refuses "AND" ts).bind fun t => .ok _
  | or items ih =>
    rw [formatExpr]
    exact (f.formatExprs_refuses ih).bind fun ts => (connect_refuses "OR" ts).bind fun t => .ok _
  | oneOf subject values ihs ihv =>
    rw [formatExpr]
    split
    · exact .render _
    · exact ihs.bind fun t => (f.formatExprs_refuses ihv).bind fun ts => .ok _
  | call function args ih =>
    rw [formatExpr]
    split
    · exact (f.formatExprs_refuses ih).bind fun ts => .ok _
    · exact .render _

theorem formatFilter_refuses (e : Expr) : Refuses (f.formatFilter e) := by
  have items (es : List Expr) : Refuses (f.formatExprs es) :=
    f.formatExprs_refuses fun e _ => f.formatExpr_refuses e
  unfold formatFilter
  split
  · exact (items _).bind fun ts => connect_refuses "AND" ts
  · exact (items _).bind fun ts => connect_refuses "OR" ts
  · exact f.formatExpr_refuses e

/-! ## Clauses -/

theorem formatAliased_refuses (field : SelectField) (place : FieldPlace) :
    Refuses (f.formatAliased field place) := by
  refine (f.formatExpr_refuses field.expr).bind fun t => ?_
  split
  · exact .ok _
  · exact (f.escapeName_refuses _).bind fun u => .ok _
  · split
    · exact (f.escapeName_refuses _).bind fun u => .ok _
    · exact .ok _
  · exact .ok _

theorem formatField_refuses (field : SelectField) (place : FieldPlace) :
    Refuses (f.formatField field place) := by
  have collapsed : Refuses (do .ok (collapseAlias (← f.formatAliased field place))) :=
    (f.formatAliased_refuses field place).bind fun t => .ok _
  unfold formatField
  split
  · exact f.formatAliased_refuses field place
  · split
    · split
      · exact f.escapeName_refuses _
      · exact collapsed
    · exact collapsed

theorem formatEntity_refuses (entity : Entity) : Refuses (f.formatEntity entity) := by
  refine (f.escapeName_refuses entity.name).bind fun t => ?_
  split
  · exact (f.escapeName_refuses _).bind fun u => .ok _
  · exact .ok _

theorem formatFields_refuses (fields : List SelectField) : Refuses (f.formatFields fields) := by
  unfold formatFields
  split
  · exact .ok _
  · exact (mapM (f.formatField_refuses · .selected) fields).bind fun ts => .ok _

theorem whereClause_refuses (filter : Option Expr) : Refuses (f.whereClause filter) := by
  cases filter with
  | none => exact .ok _
  | some e => exact (f.formatFilter_refuses e).bind fun t => .ok _

theorem orderClause_refuses (keys : List OrderKey) : Refuses (f.orderClause keys) := by
  have key (k : OrderKey) : Refuses (f.formatOrderKey k) :=
    (f.formatField_refuses { expr := k.expr } .referenced).bind fun t => .ok _
  unfold orderClause
  split
  · exact .ok _
  · exact (mapM key keys).bind fun ts => .ok _

theorem formatPairs_refuses (pairs : List (String × Expr)) : Refuses (f.formatPairs pairs) := by
  induction pairs with
  | nil => exact .ok _
  | cons pair pairs ih =>
    exact (f.escapeName_refuses pair.1).bind fun c =>
      (f.formatExpr_refuses pair.2).bind fun v => ih.bind fun ps => .ok _

/-! ## Statements -/

theorem format_refuses (q : Query) : Refuses (f.format q) := by
  cases q with
  | select q =>
    exact (f.formatFields_refuses q.fields).bind fun fields =>
      (f.formatEntity_refuses _).bind fun entity =>
        (f.whereClause_refuses q.filter).bind fun filter =>
          (f.orderClause_refuses q.orderBy).bind fun order => .ok _
  | insert q =>
    rw [format, formatInsert]
    split
    · exact .render _
    · exact (f.formatPairs_refuses q.values).bind fun pairs =>
        (f.escapeName_refuses q.entity.name).bind fun entity => .ok _
  | update q =>
    rw [format, formatUpdate]
    split
    · exact .render _
    · exact (f.formatPairs_refuses q.assignments).bind fun pairs =>
        (f.escapeName_refuses q.entity.name).bind fun entity =>
          (f.whereClause_refuses q.filter).bind fun filter => .ok _
  | delete q =>
    exact (f.escapeName_refuses q.entity.name).bind fun entity =>
      (f.whereClause_refuses q.filter).bind fun filter => .ok _

end Formatter

end CqlClient
