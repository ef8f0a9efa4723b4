import CqlClient.Proofs.Schema.Server
import Mathlib.Data.List.Nodup

/-!
# Completing a table

A table is complete when its columns are those that it had once, followed by the fields that were
missing. Each step towards that leaves it the same goal: `Table.completed_append` for added columns
and `Table.completed_own` for a new table.
-/

namespace CqlClient

def Field.column (f : Field) : Column := ⟨f.name, f.typeText, f.primary⟩

/-- The statement adds a column to a table that has one of its name. -/
def Catalog.Readds (c : Catalog) (cql : String) : Prop :=
  ∃ keyspace table name type present,
    SchemaStatement.read cql = some (.addColumn (.quoted keyspace) (.quoted table) (.quoted name, type)) ∧
      c.columns keyspace table = some present ∧ name ∈ present.map Column.name

namespace Table

/-- The columns that the table is to have in the end: its own and those it lacks, or, if it is not
there, all that the fields define. -/
def completed (fields : List Field) : Option (List Column) → List Column
  | none => fields.map Field.column
  | some present => present ++ (missing present fields).map Field.column

/-- If the table is there, then with all columns of its key. -/
def Keyed (fields : List Field) (table : Option (List Column)) : Prop :=
  ∀ present, table = some present → ∀ f ∈ fields, f.primary → f.name ∈ present.map Column.name

/-! ## Missing fields -/

variable {fields finished rest : List Field} {present : List Column}

theorem mem_missing {f : Field} :
    f ∈ missing present fields ↔ f ∈ fields ∧ f.name ∉ present.map Column.name := by
  simp [missing]

theorem additions_of_complete {t : Table} {name : String} (complete : missing present fields = []) :
    t.additions name present fields = .ok [] := by
  change (missing present fields).mapM (t.addition name) = .ok []
  rw [complete]
  rfl

/-- A field outside the key, which the table has no column for. -/
structure Pending (present : List Column) (fields : List Field) (f : Field) : Prop where
  member : f ∈ fields
  value : f.primary = false
  absent : f.name ∉ present.map Column.name

theorem Pending.of_missing (keyed : Keyed fields (some present)) {f : Field}
    (h : f ∈ missing present fields) : Pending present fields f := by
  obtain ⟨member, absent⟩ := mem_missing.1 h
  have value (primary : f.primary) : False := absent (keyed present rfl f member primary)
  exact ⟨member, Bool.eq_false_iff.2 value, absent⟩

theorem Pending.append {f g : Field} (h : Pending present fields g) (other : g.name ≠ f.name) :
    Pending (present ++ [f.column]) fields g := by
  refine ⟨h.member, h.value, fun again => ?_⟩
  rw [List.map_append, List.mem_append] at again
  rcases again with again | again
  · exact h.absent again
  · exact other (List.mem_singleton.1 again)

theorem map_name_column (fields : List Field) :
    (fields.map Field.column).map Column.name = fields.map Field.name := by
  rw [List.map_map]
  rfl

theorem missing_own (fields : List Field) : missing (fields.map Field.column) fields = [] := by
  rw [List.eq_nil_iff_forall_not_mem]
  intro f member
  obtain ⟨inside, absent⟩ := mem_missing.1 member
  rw [map_name_column] at absent
  exact absent (List.mem_map_of_mem inside)

theorem missing_append (distinct : (fields.map Field.name).Nodup)
    (h : missing present fields = finished ++ rest) :
    missing (present ++ finished.map Field.column) fields = rest := by
  have again : missing (present ++ finished.map Field.column) fields =
      (missing present fields).filter fun f => !(finished.map Field.name).contains f.name := by
    rw [missing, missing, List.filter_filter, List.map_append, map_name_column]
    congr 1
    funext f
    simp [Bool.and_comm]
  have apart : ((finished ++ rest).map Field.name).Nodup := by
    rw [← h]
    exact distinct.sublist (List.filter_sublist.map _)
  rw [List.map_append, List.nodup_append] at apart
  have none : finished.filter (fun f => !(finished.map Field.name).contains f.name) = [] := by
    rw [List.filter_eq_nil_iff]
    intro f member
    simpa using ⟨f, member, rfl⟩
  have all : rest.filter (fun f => !(finished.map Field.name).contains f.name) = rest := by
    rw [List.filter_eq_self]
    intro f member
    have other : f.name ∉ finished.map Field.name := fun again =>
      apart.2.2 f.name again f.name (List.mem_map_of_mem member) rfl
    simpa using other
  rw [again, h, List.filter_append, none, all, List.nil_append]

theorem completed_append (distinct : (fields.map Field.name).Nodup)
    (h : missing present fields = finished ++ rest) :
    completed fields (some (present ++ finished.map Field.column)) =
      completed fields (some present) := by
  rw [completed, completed, missing_append distinct h, h, List.map_append, List.append_assoc]

theorem completed_own (fields : List Field) :
    completed fields (some (fields.map Field.column)) = completed fields none := by
  simp only [completed, missing_own, List.map_nil, List.append_nil]

theorem missing_completed (distinct : (fields.map Field.name).Nodup)
    (table : Option (List Column)) : missing (completed fields table) fields = [] := by
  cases table with
  | none => exact missing_own fields
  | some present => exact missing_append distinct (List.append_nil _).symm

/-! ## Plain tables -/

/-- The connector writes names between double quotes. The names are identifiers, and the fields are
some columns of different names and of supported types. -/
structure Plain (t : Table) (keyspace : String) (fields : List Field) : Prop where
  quotes : t.connector.formatter.nameFormat = "\"$1\""
  keyspace_eq : t.keyspace = some keyspace
  keyspace : Name.isIdentifier keyspace.toList
  name : Name.isIdentifier t.name.toList
  some_field : fields ≠ []
  identifiers : ∀ f ∈ fields, Name.isIdentifier f.name.toList
  supported : ∀ f ∈ fields, f.IsSupported
  distinct : (fields.map Field.name).Nodup

def writtenNames (t : Table) (keyspace : String) (fields : List Field) : List String :=
  keyspace :: t.name :: fields.map Field.name

/-- The validator of the connector refuses one of the names. -/
def Refuses (t : Table) (keyspace : String) (fields : List Field) : Prop :=
  ∃ name ∈ t.writtenNames keyspace fields, t.connector.formatter.validator.accepts name true = false

namespace Plain

variable {t : Table} {keyspace : String} {c : Catalog}

theorem isWritable (plain : t.Plain keyspace fields) : t.IsWritable keyspace where
  keyspace_eq := plain.keyspace_eq
  keyspace := Name.isWritable_of_isIdentifier plain.keyspace
  name := Name.isWritable_of_isIdentifier plain.name

theorem writable_name (plain : t.Plain keyspace fields) :
    ∀ f ∈ fields, Name.IsWritable f.name :=
  fun f member => Name.isWritable_of_isIdentifier (plain.identifiers f member)

theorem declared_eq (plain : t.Plain keyspace fields) {f : Field} (member : f ∈ fields) :
    f.declared = (.quoted f.name, f.typeText) := by
  rw [Field.declared, Name.identifier_of_isIdentifier (plain.identifiers f member)]

theorem mem_key (plain : t.Plain keyspace fields) {f : Field} (member : f ∈ fields) :
    .quoted f.name ∈ (keyNames fields).map Name.identifier ↔ f.primary := by
  simp only [keyNames, List.map_map, List.mem_map, Function.comp, List.mem_filter]
  constructor
  · rintro ⟨g, ⟨inside, primary⟩, same⟩
    rw [Name.identifier_of_isIdentifier (plain.identifiers g inside)] at same
    obtain rfl := List.inj_on_of_nodup_map plain.distinct inside member (Identifier.quoted.inj same)
    exact primary
  · intro primary
    exact ⟨f, ⟨member, primary⟩, Name.identifier_of_isIdentifier (plain.identifiers f member)⟩

theorem mem_writtenNames (plain : t.Plain keyspace fields) {name : String}
    (member : name ∈ t.writtenNames keyspace fields) : Name.isIdentifier name.toList := by
  rcases List.mem_cons.1 member with rfl | member
  · exact plain.keyspace
  rcases List.mem_cons.1 member with rfl | member
  · exact plain.name
  obtain ⟨f, inside, rfl⟩ := List.mem_map.1 member
  exact plain.identifiers f inside

theorem validator_ne_of_refuses (plain : t.Plain keyspace fields) (h : t.Refuses keyspace fields) :
    t.connector.formatter.validator ≠ .standard := by
  obtain ⟨name, member, refused⟩ := h
  intro standard
  rw [standard, Formatter.standard_accepts (plain.mem_writtenNames member)] at refused
  cases refused

/-! ### What is rendered -/

theorem qualifiedName_yields (plain : t.Plain keyspace fields) :
    t.connector.formatter.Yields (t.writtenNames keyspace fields) t.qualifiedName
      (t.nameIn keyspace) := by
  unfold qualifiedName
  rw [requiredKeyspace_eq_ok_iff.2 plain.keyspace_eq]
  have inside : t.name ∈ t.writtenNames keyspace fields :=
    List.mem_cons_of_mem _ List.mem_cons_self
  refine (Formatter.escapeName_yields plain.quotes plain.keyspace List.mem_cons_self).bind ?_
  exact (Formatter.escapeName_yields plain.quotes plain.name inside).bind (.inl rfl)

theorem escapeName_yields (plain : t.Plain keyspace fields) {f : Field} (member : f ∈ fields) :
    t.connector.formatter.Yields (t.writtenNames keyspace fields)
      (t.connector.formatter.escapeName f.name) (Name.identifier f.name).text :=
  Formatter.escapeName_yields plain.quotes (plain.identifiers f member)
    (List.mem_cons_of_mem _ (List.mem_cons_of_mem _ (List.mem_map_of_mem member)))

theorem columnDefinition_yields (plain : t.Plain keyspace fields) {f : Field} (member : f ∈ fields) :
    t.connector.formatter.Yields (t.writtenNames keyspace fields) (t.columnDefinition f)
      f.definition := by
  unfold columnDefinition
  rw [Field.columnType_eq_ok_iff.2 ⟨plain.supported f member, rfl⟩]
  exact (plain.escapeName_yields member).bind (.inl rfl)

theorem creation_yields (plain : t.Plain keyspace fields) :
    t.connector.formatter.Yields (t.writtenNames keyspace fields) (t.creation fields)
      (creationText (t.nameIn keyspace) fields) := by
  have some_field : ¬ fields.isEmpty := fun empty => plain.some_field (List.isEmpty_iff.1 empty)
  unfold creation
  rw [if_neg some_field]
  refine (Formatter.Yields.mapM fun f member => plain.columnDefinition_yields member).bind ?_
  refine (Formatter.Yields.mapM fun f member =>
    plain.escapeName_yields (List.mem_of_mem_filter member)).bind ?_
  refine plain.qualifiedName_yields.bind (.inl ?_)
  unfold creationText parts keyNames
  rw [List.map_map]
  rfl

theorem additions_yields (plain : t.Plain keyspace fields) (keyed : Keyed fields (some present)) :
    t.connector.formatter.Yields (t.writtenNames keyspace fields)
      (t.additions (t.nameIn keyspace) present fields)
      ((missing present fields).map (additionText (t.nameIn keyspace))) := by
  refine Formatter.Yields.mapM fun f member => ?_
  have pending := Pending.of_missing keyed member
  unfold addition
  rw [pending.value, if_neg Bool.false_ne_true]
  exact (plain.columnDefinition_yields pending.member).bind (.inl rfl)

/-! ### What it does to the catalog -/

theorem read_creation (plain : t.Plain keyspace fields) :
    SchemaStatement.read (creationText (t.nameIn keyspace) fields) =
      some (.createTable (.quoted keyspace) (.quoted t.name) (fields.map Field.declared)
        ((keyNames fields).map Name.identifier)) := by
  rw [SchemaStatement.read_creation plain.isWritable plain.some_field plain.writable_name,
    Name.identifier_of_isIdentifier plain.keyspace, Name.identifier_of_isIdentifier plain.name]

theorem read_addition (plain : t.Plain keyspace fields) {f : Field} (member : f ∈ fields) :
    SchemaStatement.read (additionText (t.nameIn keyspace) f) =
      some (.addColumn (.quoted keyspace) (.quoted t.name) (.quoted f.name, f.typeText)) := by
  rw [SchemaStatement.read_addition plain.isWritable (plain.writable_name f member),
    Name.identifier_of_isIdentifier plain.keyspace, Name.identifier_of_isIdentifier plain.name,
    plain.declared_eq member]

theorem columns_after_creation (plain : t.Plain keyspace fields)
    (absent : c.columns keyspace t.name = none) :
    (c.after (creationText (t.nameIn keyspace) fields)).columns keyspace t.name =
      some (fields.map Field.column) := by
  have defined : (fields.map Field.declared).filterMap
      (Catalog.column? ((keyNames fields).map Name.identifier)) = fields.map Field.column := by
    have each (f : Field) (member : f ∈ fields) :
        Catalog.column? ((keyNames fields).map Name.identifier) f.declared = some f.column := by
      simp only [plain.declared_eq member, Catalog.column?, plain.mem_key member,
        Bool.decide_eq_true]
      rfl
    rw [List.filterMap_map]
    exact (List.filterMap_congr each).trans (congrFun List.filterMap_eq_map fields)
  rw [Catalog.after_of_read plain.read_creation, Catalog.apply, absent]
  simp only [Catalog.columns_putTable, defined]

theorem columns_after_addition (plain : t.Plain keyspace fields) {f : Field}
    (pending : Pending present fields f) (found : c.columns keyspace t.name = some present) :
    (c.after (additionText (t.nameIn keyspace) f)).columns keyspace t.name =
      some (present ++ [f.column]) := by
  rw [Catalog.after_of_read (plain.read_addition pending.member), Catalog.apply, found]
  simp [Catalog.column?, Field.column, pending.value]

theorem creation_not_readds (plain : t.Plain keyspace fields) (c : Catalog) :
    ¬ c.Readds (creationText (t.nameIn keyspace) fields) := by
  rintro ⟨k, table, name, type, present, read, -⟩
  rw [plain.read_creation] at read
  cases read

theorem addition_not_readds (plain : t.Plain keyspace fields) {f : Field}
    (pending : Pending present fields f) (found : c.columns keyspace t.name = some present) :
    ¬ c.Readds (additionText (t.nameIn keyspace) f) := by
  rintro ⟨k, table, name, type, present', read, found', again⟩
  rw [plain.read_addition pending.member] at read
  cases read
  rw [found] at found'
  cases found'
  exact pending.absent again

end Plain

end Table

theorem Catalog.query_not_readds {cql : String} (h : SchemaStatement.read cql = none) (c : Catalog) :
    ¬ c.Readds cql := by
  rintro ⟨k, table, name, type, present, read, -⟩
  rw [h] at read
  cases read

end CqlClient
