import CqlClient.Connector.Table
import CqlClient.Proofs.Format.Quoting
import CqlClient.Proofs.Format.Statement

/-!
# When a schema statement is rendered

A connector with the default formatter renders the definition of a keyspace or a table when the names
are writable and the types are supported. The text then is that of `Keyspace.creation_eq_ok_iff`,
`Table.creation_eq_ok_iff` and `Table.additions_eq_ok_iff`.
-/

namespace CqlClient

variable {cql : String}

theorem mapM_eq_ok_iff {α β : Type} {k : α → Except CqlError β} {P : α → Prop} {g : α → β}
    (h : ∀ x y, k x = .ok y ↔ P x ∧ y = g x) {xs : List α} {ys : List β} :
    xs.mapM k = .ok ys ↔ (∀ x ∈ xs, P x) ∧ ys = xs.map g := by
  rw [mapM_eq_ok]
  induction xs generalizing ys with
  | nil => simp
  | cons x xs ih =>
    simp only [List.forall₂_cons_left_iff, ih, List.forall_mem_cons, List.map_cons]
    constructor
    · rintro ⟨y, ys, found, ⟨rest, rfl⟩, rfl⟩
      obtain ⟨first, rfl⟩ := (h x y).1 found
      exact ⟨⟨first, rest⟩, rfl⟩
    · rintro ⟨⟨first, rest⟩, rfl⟩
      exact ⟨_, _, (h x _).2 ⟨first, rfl⟩, ⟨rest, rfl⟩, rfl⟩

theorem Keyspace.creation_eq_ok_iff {k : Keyspace} (hf : k.connector.formatter.IsCql)
    {options : KeyspaceOptions} :
    k.creation options = .ok cql ↔ Name.IsWritable k.name ∧
      cql = "CREATE KEYSPACE IF NOT EXISTS " ++ (Name.identifier k.name).text ++
        " WITH replication = " ++ options.replication.toLiteral := by
  simp only [creation, bind_eq_ok, Formatter.escapeName_eq_ok_iff hf, Except.ok.injEq]
  constructor
  · rintro ⟨name, ⟨writable, rfl⟩, rfl⟩
    exact ⟨writable, rfl⟩
  · rintro ⟨writable, rfl⟩
    exact ⟨_, ⟨writable, rfl⟩, rfl⟩

/-! ## Columns -/

namespace Field

def IsSupported (f : Field) : Prop := (TypeTemplate.find? f.type).isSome

instance (f : Field) : Decidable f.IsSupported := inferInstanceAs (Decidable (_ = true))

/-- The type of the column; empty if the type is not supported. -/
def typeText (f : Field) : String :=
  match f.columnType with
  | .ok type => type
  | .error _ => ""

def definition (f : Field) : String := (Name.identifier f.name).text ++ " " ++ f.typeText

structure IsWritable (f : Field) : Prop where
  name : Name.IsWritable f.name
  supported : f.IsSupported

theorem columnType_eq_ok_iff {f : Field} {type : String} :
    f.columnType = .ok type ↔ f.IsSupported ∧ type = f.typeText := by
  rw [IsSupported, typeText, columnType]
  cases TypeTemplate.find? f.type with
  | none => simp
  | some template =>
    simp only [Option.isSome_some, true_and, Except.ok.injEq]
    exact eq_comm

end Field

namespace Table

variable {t : Table}

theorem columnDefinition_eq_ok_iff (hf : t.connector.formatter.IsCql) (f : Field) (text : String) :
    t.columnDefinition f = .ok text ↔ f.IsWritable ∧ text = f.definition := by
  simp only [columnDefinition, bind_eq_ok, Formatter.escapeName_eq_ok_iff hf,
    Field.columnType_eq_ok_iff, Except.ok.injEq]
  constructor
  · rintro ⟨name, ⟨writable, rfl⟩, type, ⟨supported, rfl⟩, rfl⟩
    exact ⟨⟨writable, supported⟩, rfl⟩
  · rintro ⟨⟨writable, supported⟩, rfl⟩
    exact ⟨_, ⟨writable, rfl⟩, _, ⟨supported, rfl⟩, rfl⟩

/-! ## Tables -/

/-- The table has this keyspace, and both names can be written. -/
structure IsWritable (t : Table) (keyspace : String) : Prop where
  keyspace_eq : t.keyspace = some keyspace
  keyspace : Name.IsWritable keyspace
  name : Name.IsWritable t.name

def nameIn (t : Table) (keyspace : String) : String :=
  (Name.identifier keyspace).text ++ "." ++ (Name.identifier t.name).text

theorem requiredKeyspace_eq_ok_iff {keyspace : String} :
    t.requiredKeyspace = .ok keyspace ↔ t.keyspace = some keyspace := by
  rw [requiredKeyspace]
  cases t.keyspace <;> simp

theorem qualifiedName_eq_ok_iff (hf : t.connector.formatter.IsCql) {name : String} :
    t.qualifiedName = .ok name ↔ ∃ keyspace, t.IsWritable keyspace ∧ name = t.nameIn keyspace := by
  simp only [qualifiedName, bind_eq_ok, requiredKeyspace_eq_ok_iff,
    Formatter.escapeName_eq_ok_iff hf, Except.ok.injEq]
  constructor
  · rintro ⟨keyspace, has, k, ⟨writable, rfl⟩, n, ⟨named, rfl⟩, rfl⟩
    exact ⟨keyspace, ⟨has, writable, named⟩, rfl⟩
  · rintro ⟨keyspace, ⟨has, writable, named⟩, rfl⟩
    exact ⟨keyspace, has, _, ⟨writable, rfl⟩, _, ⟨named, rfl⟩, rfl⟩

def additionText (name : String) (f : Field) : String := "ALTER TABLE " ++ name ++ " ADD " ++ f.definition

def missing (present : List Column) (fields : List Field) : List Field :=
  fields.filter fun f => !(present.map Column.name).contains f.name

theorem addition_eq_ok_iff (hf : t.connector.formatter.IsCql) (name : String) (f : Field)
    (cql : String) :
    t.addition name f = .ok cql ↔
      (f.primary = false ∧ f.IsWritable) ∧ cql = additionText name f := by
  rw [addition]
  cases f.primary with
  | true => simp
  | false =>
    simp only [Bool.false_eq_true, if_false, bind_eq_ok, columnDefinition_eq_ok_iff hf,
      Except.ok.injEq, true_and]
    constructor
    · rintro ⟨text, ⟨writable, rfl⟩, rfl⟩
      exact ⟨writable, rfl⟩
    · rintro ⟨writable, rfl⟩
      exact ⟨_, ⟨writable, rfl⟩, rfl⟩

theorem additions_eq_ok_iff (hf : t.connector.formatter.IsCql) {name : String}
    {present : List Column} {fields : List Field} {statements : List String} :
    t.additions name present fields = .ok statements ↔
      (∀ f ∈ missing present fields, f.primary = false ∧ f.IsWritable) ∧
        statements = (missing present fields).map (additionText name) :=
  mapM_eq_ok_iff (t.addition_eq_ok_iff hf name)

def keyNames (fields : List Field) : List String := (fields.filter Field.primary).map Field.name

def parts (fields : List Field) : List String :=
  fields.map Field.definition ++
    keyClause ((keyNames fields).map fun name => (Name.identifier name).text)

def creationText (name : String) (fields : List Field) : String :=
  "CREATE TABLE IF NOT EXISTS " ++ name ++ " (" ++ ", ".intercalate (parts fields) ++ ")"

theorem creation_eq_ok_iff (hf : t.connector.formatter.IsCql) {fields : List Field} :
    t.creation fields = .ok cql ↔ fields ≠ [] ∧ (∀ f ∈ fields, f.IsWritable) ∧
      ∃ keyspace, t.IsWritable keyspace ∧ cql = creationText (t.nameIn keyspace) fields := by
  have key (fields : List Field) : (keyNames fields).map (fun name => (Name.identifier name).text) =
      (fields.filter Field.primary).map fun f => (Name.identifier f.name).text := by
    simp only [keyNames, List.map_map, Function.comp_def]
  have keys (f : Field) (text : String) : t.connector.formatter.escapeName f.name = .ok text ↔
      Name.IsWritable f.name ∧ text = (Name.identifier f.name).text :=
    Formatter.escapeName_eq_ok_iff hf
  unfold creation creationText parts
  rw [key]
  cases fields with
  | nil => simp
  | cons first rest =>
    simp only [List.isEmpty_cons, Bool.false_eq_true, if_false, bind_eq_ok,
      mapM_eq_ok_iff (t.columnDefinition_eq_ok_iff hf), mapM_eq_ok_iff keys,
      qualifiedName_eq_ok_iff hf, Except.ok.injEq]
    constructor
    · rintro ⟨definitions, ⟨writable, rfl⟩, key, ⟨-, rfl⟩, name, ⟨keyspace, named, rfl⟩, rfl⟩
      exact ⟨by simp, writable, keyspace, named, rfl⟩
    · rintro ⟨-, writable, keyspace, named, rfl⟩
      refine ⟨_, ⟨writable, rfl⟩, _, ⟨fun f member => ?_, rfl⟩, _, ⟨keyspace, named, rfl⟩, rfl⟩
      exact (writable f (List.mem_of_mem_filter member)).name

end Table

end CqlClient
