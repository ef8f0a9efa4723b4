import CqlClient.Proofs.Schema.Reading
import CqlClient.Proofs.Schema.Refusal

/-!
# Columns that a change adds

A change compares the names of fields with those of the catalog as they are given, and adds columns
under the names as they are written. By `Table.addsOnce_change` it adds no column twice if the
written names of the missing fields differ from each other and from the names in the catalog, and
only then if it succeeds.
-/

namespace CqlClient

variable {τ α β : Type} {T : Transport τ} {w : World τ}

def addedColumn? (statement : String × List Json) : Option Identifier :=
  match SchemaStatement.read statement.1 with
  | some (.addColumn _ _ column) => some column.1
  | _ => none

namespace Turn

/-- The columns that the statements of a turn are to add. -/
def added (turn : Turn τ α) : List Identifier := turn.statements.filterMap addedColumn?

variable {turn : Turn τ α} {k : α → Machine τ → Turn τ β}

theorem added_andThen_of_ok {a : α} (h : turn.answer = .ok a) :
    (turn.andThen k).added = turn.added ++ (k a turn.next).added := by
  rw [added, statements_andThen_of_ok h, List.filterMap_append]
  rfl

theorem added_andThen_of_error {f : Failure} (h : turn.answer = .error f) :
    (turn.andThen k).added = turn.added := by
  rw [added, statements_andThen_of_error h]
  rfl

theorem added_andThen_settled (r : α → Except CqlError β) :
    (turn.andThen fun a m => settled (r a) m).added = turn.added := by
  rw [added, statements_andThen_settled]
  rfl

end Turn

theorem addedColumn?_eq_none {cql : String} (h : SchemaStatement.read cql = none)
    (params : List Json) : addedColumn? (cql, params) = none := by
  rw [addedColumn?, h]

theorem Machine.Sends.added_eq_nil {c : Connector} {cql : String} {params : List Json}
    {m : Machine τ} {turn : Turn τ (List Row)} (h : m.Sends T c cql params turn)
    (silent : addedColumn? (cql, params) = none) : turn.added = [] := by
  rcases h.statements_eq with sent | ⟨none, -⟩
  · rw [Turn.added, sent, List.filterMap_cons, silent]
    rfl
  · rw [Turn.added, none]
    rfl

/-- No column is added twice, and none that is there. -/
def AddsOnce (present : List Column) (added : List Identifier) : Prop :=
  added.Nodup ∧ ∀ c ∈ present, .quoted c.name ∉ added

instance (present : List Column) (added : List Identifier) : Decidable (AddsOnce present added) :=
  inferInstanceAs (Decidable (_ ∧ _))

theorem AddsOnce.of_prefix {present : List Column} {added longer : List Identifier}
    (h : AddsOnce present longer) (start : added <+: longer) : AddsOnce present added :=
  ⟨h.1.sublist start.sublist, fun c member again => h.2 c member (start.subset again)⟩

namespace Table

/-- The catalog tells that the table is there, and lists these columns. -/
structure Reported (T : Transport τ) (w : World τ) (t : Table) (columns : List Column) : Prop where
  present : (t.isPresent.turn T w).answer = .ok true
  listed : (t.columns.turn T (t.isPresent.turn T w).next.world).answer = .ok columns

variable {t : Table}

theorem added_isPresent : (t.isPresent.turn T w).added = [] := by
  rw [turn_isPresent]
  cases t.requiredKeyspace with
  | error e => rfl
  | ok keyspace =>
    exact w.machine.execute_sends.added_eq_nil
      (addedColumn?_eq_none SchemaStatement.read_presenceQuery _)

theorem added_columns : (t.columns.turn T w).added = [] := by
  rw [turn_columns]
  cases t.requiredKeyspace with
  | error e => rfl
  | ok keyspace =>
    simp only [Turn.added_andThen_settled]
    exact w.machine.execute_sends.added_eq_nil
      (addedColumn?_eq_none SchemaStatement.read_columnsQuery _)

theorem added_create (hf : t.connector.formatter.IsCql) (fields : List Field) :
    ((t.create fields).turn T w).added = [] := by
  rw [turn_create]
  cases rendered : t.creation fields with
  | error e => rfl
  | ok cql =>
    obtain ⟨some_field, writable, keyspace, named, rfl⟩ := (creation_eq_ok_iff hf).1 rendered
    refine w.machine.execute_sends.added_eq_nil ?_
    rw [addedColumn?, SchemaStatement.read_creation named some_field fun f member =>
      (writable f member).name]

/-- The columns that the missing fields are to be, under their written names. -/
def toAdd (columns : List Column) (fields : List Field) : List Identifier :=
  (missing columns fields).map fun f => Name.identifier f.name

theorem added_executeAll {keyspace : String} (named : t.IsWritable keyspace) {fields : List Field}
    (writable : ∀ f ∈ fields, Name.IsWritable f.name) (w : World τ) :
    let turn := (executeAll t.connector
      (fields.map (additionText (t.nameIn keyspace)))).turn T w
    turn.added <+: fields.map (fun f => Name.identifier f.name) ∧
      (turn.answer = .ok () → turn.added = fields.map fun f => Name.identifier f.name) := by
  induction fields generalizing w with
  | nil => exact ⟨List.nil_prefix, fun _ => rfl⟩
  | cons f fields ih =>
    obtain ⟨first, rest⟩ := List.forall_mem_cons.1 writable
    have column : addedColumn? (additionText (t.nameIn keyspace) f, []) =
        some (Name.identifier f.name) := by
      rw [addedColumn?, SchemaStatement.read_addition named first]
      rfl
    rw [List.map_cons, List.map_cons, turn_executeAll_cons]
    generalize sent : w.machine.execute T t.connector
      (.text (additionText (t.nameIn keyspace) f)) [] = turn
    have sends : w.machine.Sends T t.connector _ [] turn := sent ▸ w.machine.execute_sends
    -- a statement that fails was handed over all the same, unless there was no session for it
    have added : turn.added = [Name.identifier f.name] ∨ turn.added = [] ∧ ∃ e, turn.answer = .error e := by
      rcases sends.statements_eq with sent | ⟨none, failed⟩
      · left
        rw [Turn.added, sent, List.filterMap_cons, column]
        rfl
      · right
        rw [Turn.added, none]
        exact ⟨rfl, failed⟩
    cases answer : turn.answer with
    | ok rows =>
      have one := added.resolve_right fun ⟨_, e, failed⟩ => by simp [answer] at failed
      obtain ⟨start, whole⟩ := ih rest turn.next.world
      simp only [Turn.added_andThen_of_ok answer, Turn.answer_andThen_of_ok answer, one,
        List.singleton_append, List.prefix_cons_inj, List.cons.injEq, true_and]
      exact ⟨start, whole⟩
    | error failure =>
      rw [Turn.andThen_of_error answer]
      refine ⟨?_, fun done => by cases done⟩
      change turn.added <+: _
      rcases added with one | ⟨none, -⟩
      · rw [one]
        exact List.prefix_append [_] _
      · rw [none]
        exact List.nil_prefix

theorem added_change_of_reported (hf : t.connector.formatter.IsCql) {columns : List Column}
    (h : t.Reported T w columns) (fields : List Field) :
    let turn := (t.change fields).turn T w
    turn.added <+: toAdd columns fields ∧ (turn.answer = .ok () → turn.added = toAdd columns fields) := by
  rw [turn_change]
  cases name : t.qualifiedName with
  | error e => exact ⟨List.nil_prefix, fun done => by cases done⟩
  | ok name =>
    obtain ⟨keyspace, named, rfl⟩ := (qualifiedName_eq_ok_iff hf).1 name
    simp only [Turn.added_andThen_of_ok h.present, Turn.answer_andThen_of_ok h.present,
      added_isPresent, List.nil_append, if_true, turn_extend, Turn.added_andThen_of_ok h.listed,
      Turn.answer_andThen_of_ok h.listed, added_columns]
    cases rendered : t.additions (t.nameIn keyspace) columns fields with
    | error e => exact ⟨List.nil_prefix, fun done => by cases done⟩
    | ok statements =>
      obtain ⟨writable, rfl⟩ := (additions_eq_ok_iff hf).1 rendered
      exact added_executeAll named (fun f member => (writable f member).2.name) _

theorem added_change_of_not_reported (hf : t.connector.formatter.IsCql)
    (h : ∀ columns, ¬ t.Reported T w columns) (fields : List Field) :
    ((t.change fields).turn T w).added = [] := by
  rw [turn_change]
  cases t.qualifiedName with
  | error e => rfl
  | ok name =>
    cases present : (t.isPresent.turn T w).answer with
    | error e =>
      simp only [Turn.added_andThen_of_error present, added_isPresent]
    | ok present' =>
      simp only [Turn.added_andThen_of_ok present, added_isPresent, List.nil_append]
      cases present' with
      | false => exact added_create hf fields
      | true =>
        rw [if_pos rfl, turn_extend]
        cases listed : (t.columns.turn T (t.isPresent.turn T w).next.world).answer with
        | ok columns => exact absurd ⟨present, listed⟩ (h columns)
        | error e => rw [Turn.added_andThen_of_error listed, added_columns]

/-- A change of a table that the catalog reports adds no column twice and none that is reported, if
the missing columns under their written names are such; when it succeeds, only then. Any other change
adds no column. -/
theorem addsOnce_change (hf : t.connector.formatter.IsCql) (T : Transport τ) (w : World τ)
    (fields : List Field) :
    (∀ columns, t.Reported T w columns →
      let turn := (t.change fields).turn T w
      (AddsOnce columns (toAdd columns fields) → AddsOnce columns turn.added) ∧
        (turn.answer = .ok () → AddsOnce columns turn.added →
          AddsOnce columns (toAdd columns fields))) ∧
      ((∀ columns, ¬ t.Reported T w columns) → ((t.change fields).turn T w).added = []) := by
  refine ⟨fun columns reported => ?_, fun other => added_change_of_not_reported hf other fields⟩
  obtain ⟨start, whole⟩ := added_change_of_reported hf reported fields
  exact ⟨fun once => once.of_prefix start, fun done once => whole done ▸ once⟩

/-- The name of a field is qualified, and its last part is the name of a column that is there. -/
theorem qualified_field_added_again :
    let fields := [Field.key "id" "Guid", { name := "legacy.price", type := "Decimal" }]
    let columns : List Column := [⟨"id", "uuid", true⟩, ⟨"price", "decimal", false⟩]
    let w : World (List (List Row)) := { transport := [[[("table_name", .str "products")]],
      [[("kind", .str "partition_key"), ("name", .str "id"), ("type", .str "uuid")],
        [("kind", .str "regular"), ("name", .str "price"), ("type", .str "decimal")]]] }
    products.connector.formatter.IsCql ∧ products.Reported .replaying w columns ∧
      ((products.change fields).turn .replaying w).answer = .ok () ∧
      ¬ AddsOnce columns ((products.change fields).turn .replaying w).added := by
  intro fields columns w
  have reported : products.Reported .replaying w columns := ⟨rfl, rfl⟩
  have done : ((products.change fields).turn .replaying w).answer = .ok () := rfl
  have again : ¬ AddsOnce columns (toAdd columns fields) := by decide
  have only := (addsOnce_change Formatter.cql_isCql .replaying w fields).1 columns reported
  exact ⟨Formatter.cql_isCql, reported, done, fun once => again (only.2 done once)⟩

end Table

end CqlClient
