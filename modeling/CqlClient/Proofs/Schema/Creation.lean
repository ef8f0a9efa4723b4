import CqlClient.Proofs.Schema.Reading
import CqlClient.Proofs.Schema.Refusal

/-!
# What the creation of a table states

The text of a `TableCreation` is read back as that creation and as no other one. By
`Table.create_states` a request hands over the creation that its fields define, under the last parts
of all names, or is refused before the transport is asked.
-/

namespace CqlClient

open SchemaStatement

/-- The keyspace and the name of a table, and the items of its definition. -/
structure TableCreation where
  keyspace : Identifier
  table : Identifier
  items : List TableItem

def TableItem.read (cs : List Char) : Option TableItem :=
  match readColumn cs with
  | some (name, type) => some (.column name type)
  | none => (readKey cs).map .key

theorem TableItem.read_text {item : TableItem} (h : item.IsWritten) :
    read item.text.toList = some item := by
  cases item with
  | column name type =>
    have column : readColumn (TableItem.column name type).text.toList = some (name, type) :=
      readColumn_append h.1.isClosed type
    rw [read, column]
  | key names =>
    rw [read, readColumn_text_key, readKey_text h]
    rfl

namespace TableCreation

def text (d : TableCreation) : String :=
  "CREATE TABLE IF NOT EXISTS " ++ d.keyspace.text ++ "." ++ d.table.text ++ " (" ++
    ", ".intercalate (d.items.map TableItem.text) ++ ")"

structure IsWritten (d : TableCreation) : Prop where
  keyspace : d.keyspace.IsWritten
  table : d.table.IsWritten
  some_item : d.items ≠ []
  items : ∀ item ∈ d.items, item.IsWritten

def read (cql : String) : Option TableCreation := do
  let cs ← expect "CREATE TABLE IF NOT EXISTS " cql.toList
  let (keyspace, table, cs) ← readTableName cs
  let cs ← expect " (" cs
  let cs ← beforeParenthesis cs
  let items ← (SchemaStatement.items cs).mapM TableItem.read
  some { keyspace, table, items }

variable {d : TableCreation}

theorem toList_text (d : TableCreation) :
    d.text.toList = "CREATE TABLE IF NOT EXISTS ".toList ++
      ((d.keyspace.text ++ "." ++ d.table.text).toList ++ (" (".toList ++
        ((", ".intercalate (d.items.map TableItem.text)).toList ++ ")".toList))) := by
  unfold text
  simp only [String.toList_append, List.append_assoc]

theorem read_text (h : d.IsWritten) : read d.text = some d := by
  have each (item : TableItem) (member : item ∈ d.items) :
      TableItem.read item.text.toList = some item :=
    TableItem.read_text (h.items item member)
  have items : (d.items.map (·.text.toList)).mapM TableItem.read = some d.items :=
    (mapM_map_eq_some each).trans (congrArg some (List.map_id d.items))
  simp only [read, toList_text, expect_append, Option.bind_eq_bind, Option.bind_some,
    readTableName_append h.keyspace.isClosed h.table.isClosed, beforeParenthesis_append,
    items_texts h.some_item h.items, items]

theorem eq_of_text_eq {d' : TableCreation} (h : d.IsWritten) (h' : d'.IsWritten)
    (same : d'.text = d.text) : d' = d := by
  have back := read_text h'
  rw [same, read_text h] at back
  exact (Option.some.inj back).symm

end TableCreation

/-! ## Creations of tables -/

namespace Table

variable {t : Table} {fields : List Field}

/-- The creation states what the fields do: their names and types in order, and after them the key,
if it has a field. -/
structure Defines (t : Table) (fields : List Field) (d : TableCreation) : Prop where
  keyspace : ∃ keyspace, t.keyspace = some keyspace ∧ d.keyspace.name = Name.member keyspace
  table : d.table.name = Name.member t.name
  items : ∃ columns key,
    d.items = columns.map (fun (name, type) => .column name type) ++ keyItem key ∧
    List.Forall₂ (fun f (name, type) => name.name = Name.member f.name ∧ f.columnType = .ok type)
      fields columns ∧
    key.map Identifier.name = (fields.filter Field.primary).map fun f => Name.member f.name

/-- There is no field or no keyspace, or a name or a type is not supported. -/
inductive Undefinable (t : Table) (fields : List Field) : Prop where
  | noField (none : fields = [])
  | noKeyspace (none : t.keyspace = none)
  | name {name : String} {e : CqlError}
      (among : some name = t.keyspace ∨ name = t.name ∨ name ∈ fields.map Field.name)
      (rejected : t.connector.formatter.escapeName name = .error e)
  | type {f : Field} (member : f ∈ fields) (unknown : TypeTemplate.find? f.type = none)

def stated (t : Table) (keyspace : String) (fields : List Field) : TableCreation where
  keyspace := Name.identifier keyspace
  table := Name.identifier t.name
  items := declarations fields

variable {keyspace : String}

theorem text_stated (t : Table) (keyspace : String) (fields : List Field) :
    (t.stated keyspace fields).text = creationText (t.nameIn keyspace) fields := by
  rw [← String.toList_inj, TableCreation.toList_text, toList_creationText, parts_eq]
  rfl

theorem stated_written (named : t.IsWritable keyspace) (some_field : fields ≠ [])
    (writable : ∀ f ∈ fields, f.IsWritable) : (t.stated keyspace fields).IsWritten where
  keyspace := named.keyspace.isWritten
  table := named.name.isWritten
  some_item := declarations_ne_nil some_field
  items := declarations_written fun f member => (writable f member).name

theorem stated_defines (named : t.IsWritable keyspace) (writable : ∀ f ∈ fields, f.IsWritable) :
    t.Defines fields (t.stated keyspace fields) where
  keyspace := ⟨keyspace, named.keyspace_eq, named.keyspace.name_identifier⟩
  table := named.name.name_identifier
  items := by
    refine ⟨fields.map Field.declared, (keyNames fields).map Name.identifier, ?_, ?_, ?_⟩
    · rw [List.map_map]
      rfl
    · refine List.forall₂_map_right_iff.2 (List.forall₂_same.2 fun f member => ?_)
      have writable := writable f member
      exact ⟨writable.name.name_identifier, Field.columnType_eq_ok_iff.2 ⟨writable.supported, rfl⟩⟩
    · rw [keyNames, List.map_map, List.map_map]
      refine List.map_congr_left fun f member => ?_
      exact (writable f (List.mem_of_mem_filter member)).name.name_identifier

theorem undefinable_iff (hf : t.connector.formatter.IsCql) :
    t.Undefinable fields ↔ ∃ e, t.creation fields = .error e := by
  cases rendered : t.creation fields with
  | ok cql =>
    obtain ⟨some_field, writable, keyspace, named, -⟩ := (creation_eq_ok_iff hf).1 rendered
    refine ⟨fun undefinable => ?_, fun ⟨e, failed⟩ => by cases failed⟩
    cases undefinable with
    | noField none => exact absurd none some_field
    | noKeyspace none => simp [named.keyspace_eq] at none
    | @name name e among rejected =>
      have unwritable := (Formatter.escapeName_rejects_iff hf).1 ⟨e, rejected⟩
      rcases among with own | rfl | inside
      · obtain rfl : name = keyspace := Option.some.inj (own.trans named.keyspace_eq)
        exact absurd named.keyspace unwritable
      · exact absurd named.name unwritable
      · obtain ⟨f, member, rfl⟩ := List.mem_map.1 inside
        exact absurd (writable f member).name unwritable
    | type member unknown =>
      have supported := (writable _ member).supported
      simp [Field.IsSupported, unknown] at supported
  | error e =>
    refine ⟨fun _ => ⟨e, rfl⟩, fun _ => by_contra fun definable => ?_⟩
    have write {name : String}
        (among : some name = t.keyspace ∨ name = t.name ∨ name ∈ fields.map Field.name) :
        Name.IsWritable name := by
      by_contra unwritable
      obtain ⟨e, rejected⟩ := (Formatter.escapeName_rejects_iff hf).2 unwritable
      exact definable (.name among rejected)
    have writable (f : Field) (member : f ∈ fields) : f.IsWritable := by
      refine ⟨write (.inr (.inr (List.mem_map_of_mem member))), ?_⟩
      exact Option.isSome_iff_ne_none.2 fun unknown => definable (.type member unknown)
    obtain ⟨keyspace, has⟩ := Option.ne_none_iff_exists'.1 fun none => definable (.noKeyspace none)
    have written := (creation_eq_ok_iff hf).2 ⟨fun none => definable (.noField none), writable,
      keyspace, ⟨has, write (.inl has.symm), write (.inr (.inl rfl))⟩, rfl⟩
    rw [rendered] at written
    cases written

/-- A creation is refused before the transport is asked, just when the fields do not define a table,
or hands over the one statement that says what they define, which has no other reading. -/
theorem create_states {τ : Type} {T : Transport τ} (hf : t.connector.formatter.IsCql)
    (fails : T.FailsInTransport) (fields : List Field) (w : World τ) :
    let turn := (t.create fields).turn T w
    ((∃ f, turn.answer = .error f ∧ f.kind = .configuration) ↔ t.Undefinable fields) ∧
      ((∃ e : CqlError, e.kind = .configuration ∧ turn = .settled (.error e) w.machine) ∨
        ∃ d sent, t.Defines fields d ∧ d.IsWritten ∧ TableCreation.read d.text = some d ∧
          (∀ d' : TableCreation, d'.IsWritten → d'.text = d.text → d' = d) ∧
          w.machine.Sends T t.connector d.text [] sent ∧ turn = sent.map fun _ => ()) := by
  rw [undefinable_iff hf]
  cases rendered : t.creation fields with
  | error e =>
    have refused : (t.create fields).turn T w = .settled (.error e) w.machine := by
      rw [turn_create, rendered]
    have kind := kind_of_creation rendered
    rw [refused]
    exact ⟨⟨fun _ => ⟨e, rfl⟩, fun _ => ⟨e.failure, rfl, kind⟩⟩, .inl ⟨e, kind, rfl⟩⟩
  | ok cql =>
    obtain ⟨some_field, writable, keyspace, named, rfl⟩ := (creation_eq_ok_iff hf).1 rendered
    have written := stated_written named some_field writable
    constructor
    · constructor
      · rintro ⟨f, answer, kind⟩
        have justified : ((t.create fields).turn T w).Justified T fun _ => False :=
          t.create_justified rendered
        rcases justified f answer with ⟨e, rfl, blames⟩ | none
        · have other : e.kind = .configuration := kind
          rw [blames.kind_eq fails] at other
          cases other
        · exact none.elim
      · rintro ⟨e, failed⟩
        cases failed
    · refine .inr ⟨t.stated keyspace fields, _, stated_defines named writable, written,
        TableCreation.read_text written, fun d' => TableCreation.eq_of_text_eq written,
        w.machine.execute_sends, ?_⟩
      rw [turn_create, rendered, text_stated]

/-- A table with a decimal column of precision 10 and scale 2, which has a comma of its own. -/
theorem products_created :
    let fields := [Field.key "id" "Guid",
      { name := "price", type := "Decimal", size := some 10, scale := some 2 }]
    let w : World (List (List Row)) := { transport := [] }
    products.connector.formatter.IsCql ∧ Transport.replaying.FailsInTransport ∧
      ¬ products.Undefinable fields ∧
      ((products.create fields).turn .replaying w).statements =
        [("CREATE TABLE IF NOT EXISTS \"shop\".\"products\" (\"id\" UUID, " ++
          "\"price\" DECIMAL(10,2), PRIMARY KEY (\"id\"))", [])] := by
  intro fields w
  have created : ((products.create fields).turn .replaying w).answer = .ok () := rfl
  have states := create_states (t := products) Formatter.cql_isCql
    Transport.replaying_failsInTransport fields w
  refine ⟨Formatter.cql_isCql, Transport.replaying_failsInTransport, fun undefinable => ?_, rfl⟩
  obtain ⟨f, failed, -⟩ := states.1.2 undefinable
  rw [created] at failed
  cases failed

end Table

end CqlClient
