import CqlClient.Proofs.Schema.Server

/-!
# Names that are created and names that are asked for

A keyspace or a table is created under its names as they are written, and the catalog is asked for
its names as they are given. By `Handle.created_eq_asked_iff` these are the same just for simple
names, and only then a server is sure to find what was created.
-/

namespace CqlClient

variable {τ : Type}

/-- What can be created: a keyspace with options, or a table with fields. -/
inductive Handle where
  | keyspace (k : Keyspace) (options : KeyspaceOptions)
  | table (t : Table) (fields : List Field)

namespace SchemaStatement

def created : SchemaStatement → List Identifier
  | .createKeyspace name _ => [name]
  | .createTable keyspace table _ _ => [keyspace, table]
  | .addColumn .. => []

end SchemaStatement

/-- The names that a catalog query binds, a keyspace before its table. -/
def askedNames (statement : String × List Json) : List String :=
  if statement.1 = Table.columnsQuery then (statement.2.filterMap Json.asString?).reverse
  else statement.2.filterMap Json.asString?

namespace Handle

def connector : Handle → Connector
  | .keyspace k _ => k.connector
  | .table t _ => t.connector

def creation : Handle → Except CqlError String
  | .keyspace k options => k.creation options
  | .table t fields => t.creation fields

def create : Handle → Request Unit
  | .keyspace k options => k.create options
  | .table t fields => t.create fields

def isPresent : Handle → Request Bool
  | .keyspace k _ => k.isPresent
  | .table t _ => t.isPresent

def names : Handle → List String
  | .keyspace k _ => [k.name]
  | .table t _ => t.keyspace.toList ++ [t.name]

/-- The catalog queries that are handed to a session. -/
def queries (T : Transport τ) (w : World τ) : Handle → List (String × List Json)
  | .keyspace k _ => (k.isPresent.turn T w).statements
  | .table t _ => (t.isPresent.turn T w).statements ++ (t.columns.turn T w).statements

def IsIn (c : Catalog) : Handle → Prop
  | .keyspace k _ => k.name ∈ c.keyspaces
  | .table t _ => ∃ keyspace, t.keyspace = some keyspace ∧ (c.columns keyspace t.name).isSome

end Handle

namespace Catalog

theorem mem_keyspaces_createKeyspace {c : Catalog} {i : Identifier} {replication name : String} :
    name ∈ (c.apply (.createKeyspace i replication)).keyspaces ↔
      i = .quoted name ∨ name ∈ c.keyspaces := by
  cases i with
  | star => simp [apply]
  | quoted n => simp [apply, mem_keyspaces_addKeyspace, eq_comm]

theorem isSome_columns_createTable {c : Catalog} {i j : Identifier}
    {columns : List (Identifier × String)} {key : List Identifier} {keyspace table : String} :
    ((c.apply (.createTable i j columns key)).columns keyspace table).isSome ↔
      i = .quoted keyspace ∧ j = .quoted table ∨ (c.columns keyspace table).isSome := by
  cases i with
  | star => simp [apply]
  | quoted k =>
    cases j with
    | star => simp [apply]
    | quoted t =>
      by_cases same : keyspace = k ∧ table = t
      · obtain ⟨rfl, rfl⟩ := same
        simp only [apply]
        split
        · simp
        · rename_i present found
          simp [found]
      · have other : ¬ (Identifier.quoted k = .quoted keyspace ∧ Identifier.quoted t = .quoted table) := by
          rintro ⟨first, second⟩
          exact same ⟨(Identifier.quoted.inj first).symm, (Identifier.quoted.inj second).symm⟩
        simp only [apply, other, false_or]
        split
        · rw [columns_putTable_of_ne same]
        · rfl

end Catalog

namespace Handle

variable {T : Transport τ} {view : τ → Catalog} {w : World τ}

theorem map_identifier_eq_iff {names : List String} :
    names.map Name.identifier = names.map .quoted ↔ ∀ name ∈ names, Name.IsSimple name := by
  rw [List.map_inj_left]
  exact forall₂_congr fun name _ => Name.identifier_eq_quoted_iff

/-- A statement that creates something names it as written, and puts it into the catalog. -/
theorem read_creation {h : Handle} (hf : h.connector.formatter.IsCql) {cql : String}
    (rendered : h.creation = .ok cql) :
    ∃ s, SchemaStatement.read cql = some s ∧ s.created = h.names.map Name.identifier ∧
      ∀ c : Catalog, h.IsIn (c.apply s) ↔ (∀ name ∈ h.names, Name.IsSimple name) ∨ h.IsIn c := by
  cases h with
  | keyspace k options =>
    obtain ⟨writable, rfl⟩ := (Keyspace.creation_eq_ok_iff hf).1 rendered
    refine ⟨_, SchemaStatement.read_keyspaceCreation writable _, rfl, fun c => ?_⟩
    simp only [IsIn, Catalog.mem_keyspaces_createKeyspace, Name.identifier_eq_quoted_iff, names,
      List.mem_singleton, forall_eq]
  | table t fields =>
    obtain ⟨some_field, writable, keyspace, named, rfl⟩ := (Table.creation_eq_ok_iff hf).1 rendered
    refine ⟨_, SchemaStatement.read_creation named some_field fun f member =>
      (writable f member).name, ?_, fun c => ?_⟩
    · simp [SchemaStatement.created, names, named.keyspace_eq]
    · simp only [IsIn, Catalog.isSome_columns_createTable, Name.identifier_eq_quoted_iff, names,
        named.keyspace_eq, Option.some.injEq, exists_eq_left', Option.toList_some,
        List.singleton_append, List.mem_cons, List.not_mem_nil, or_false, forall_eq_or_imp, forall_eq]

theorem askedNames_queries (h : Handle) {s : String × List Json} (asked : s ∈ h.queries T w) :
    askedNames s = h.names := by
  have keyspaces : Keyspace.presenceQuery ≠ Table.columnsQuery := by decide
  have tables : Table.presenceQuery ≠ Table.columnsQuery := by decide
  cases h with
  | keyspace k options =>
    rw [queries, Keyspace.turn_isPresent] at asked
    obtain rfl := w.machine.execute_sends.eq_of_mem asked
    rw [askedNames, if_neg keyspaces]
    rfl
  | table t fields =>
    rcases List.mem_append.1 asked with asked | asked
    · rw [Table.turn_isPresent] at asked
      cases required : t.requiredKeyspace with
      | error e => simp [required, Turn.statements, Turn.settled] at asked
      | ok keyspace =>
        rw [required] at asked
        obtain rfl := w.machine.execute_sends.eq_of_mem asked
        rw [names, Table.requiredKeyspace_eq_ok_iff.1 required]
        rw [askedNames, if_neg tables]
        rfl
    · rw [Table.turn_columns] at asked
      cases required : t.requiredKeyspace with
      | error e => simp [required, Turn.statements, Turn.settled] at asked
      | ok keyspace =>
        rw [required] at asked
        simp only [Turn.statements_andThen_settled] at asked
        obtain rfl := w.machine.execute_sends.eq_of_mem asked
        rw [names, Table.requiredKeyspace_eq_ok_iff.1 required]
        rw [askedNames, if_pos rfl]
        rfl

theorem isPresent_served (serves : T.Serves view) (h : Handle) (w : World τ) :
    let turn := h.isPresent.turn T w
    view turn.next.transport = view w.transport ∧
      ∀ b, turn.answer = .ok b → (b ↔ h.IsIn (view w.transport)) := by
  cases h with
  | keyspace k options => exact k.isPresent_served serves w
  | table t fields =>
    cases has : t.keyspace with
    | none =>
      have required : t.requiredKeyspace = .error (.configuration (.noKeyspace t.name)) := by
        rw [Table.requiredKeyspace, has]
      simp only [isPresent, Table.turn_isPresent, required]
      exact ⟨rfl, fun b found => by cases found⟩
    | some keyspace =>
      obtain ⟨kept, found⟩ := t.isPresent_served serves has w
      refine ⟨kept, fun b answer => ?_⟩
      rw [found b answer, IsIn, has]
      simp

theorem create_served (serves : T.Serves view) {h : Handle} {cql : String}
    (rendered : h.creation = .ok cql) (w : World τ) :
    let turn := h.create.turn T w
    turn.answer = .ok () ∧ view turn.next.transport = (view w.transport).after cql ∨
      (∃ f, turn.answer = .error f) ∧ view turn.next.transport = view w.transport := by
  cases h with
  | keyspace k options => exact Keyspace.create_served serves rendered w
  | table t fields => exact Table.create_served serves rendered w

theorem isPresent_answered {h : Handle} {cql : String} (hf : h.connector.formatter.IsCql)
    (rendered : h.creation = .ok cql) (w : World τ) :
    (∃ b, (h.isPresent.turn T w).answer = .ok b) ∨
      ∃ e : CqlError, (h.isPresent.turn T w).answer = .error e.failure ∧
        (h.isPresent.turn T w).Blames T e := by
  have justified : (h.isPresent.turn T w).Justified T fun _ => False := by
    cases h with
    | keyspace k options =>
      rw [isPresent, Keyspace.turn_isPresent]
      exact (w.machine.execute_text_justified k.connector _ _).map _
    | table t fields =>
      obtain ⟨-, -, keyspace, named, -⟩ := (Table.creation_eq_ok_iff hf).1 rendered
      exact t.isPresent_justified (Table.requiredKeyspace_eq_ok_iff.2 named.keyspace_eq)
  cases answer : (h.isPresent.turn T w).answer with
  | ok b => exact .inl ⟨b, rfl⟩
  | error f =>
    rcases justified f answer with ⟨e, rfl, blames⟩ | never
    · exact .inr ⟨e, rfl, blames⟩
    · exact never.elim

/-- A catalog query asks for the names as they are given. They are the names in the statement that
creates a keyspace or a table just if all of them are simple. Once it is created, a server that keeps
a catalog tells that it is there if they are simple, or if something else was there under the given
names; unless the transport fails. -/
theorem created_eq_asked_iff (h : Handle) (hf : h.connector.formatter.IsCql) {cql : String}
    (rendered : h.creation = .ok cql) (T : Transport τ) :
    (∀ w, ∀ s ∈ h.queries T w,
      ((SchemaStatement.read cql).map SchemaStatement.created = some ((askedNames s).map .quoted) ↔
        ∀ name ∈ h.names, Name.IsSimple name)) ∧
    ∀ view, T.Serves view → ∀ w, (h.create.turn T w).answer = .ok () →
      let turn := h.isPresent.turn T (h.create.turn T w).next.world
      (∃ b, turn.answer = .ok b ∧
        (b ↔ (∀ name ∈ h.names, Name.IsSimple name) ∨ h.IsIn (view w.transport))) ∨
        ∃ e : CqlError, turn.answer = .error e.failure ∧ turn.Blames T e := by
  obtain ⟨s, read, created, put⟩ := read_creation hf rendered
  constructor
  · intro w query asked
    rw [read, Option.map_some, created, h.askedNames_queries asked, Option.some.injEq,
      map_identifier_eq_iff]
  · intro view serves w done
    have kept : view (h.create.turn T w).next.transport = (view w.transport).apply s := by
      rcases create_served serves rendered w with ⟨-, kept⟩ | ⟨⟨f, failed⟩, -⟩
      · rw [kept, Catalog.after_of_read read]
      · rw [done] at failed
        cases failed
    refine (isPresent_answered hf rendered _).imp_left fun ⟨b, answer⟩ => ⟨b, answer, ?_⟩
    have found := (h.isPresent_served serves (h.create.turn T w).next.world).2 b answer
    have world : (h.create.turn T w).next.world.transport = (h.create.turn T w).next.transport := rfl
    rw [found, world, kept, put]

/-- A keyspace is created under the last part of its name, and is not found under the whole name. -/
theorem qualified_keyspace_not_found :
    let prod : Handle := .keyspace ⟨{ config := .standard }, "prod.shop"⟩ {}
    let w : World Server := { transport := {} }
    prod.connector.formatter.IsCql ∧ (∃ cql, prod.creation = .ok cql) ∧
      Server.transport.Serves Server.catalog ∧
      (prod.create.turn Server.transport w).answer = .ok () ∧
      (prod.isPresent.turn Server.transport
        (prod.create.turn Server.transport w).next.world).answer = .ok false := by
  intro prod w
  have created : (prod.create.turn Server.transport w).answer = .ok () := rfl
  have told : ∃ b, (prod.isPresent.turn Server.transport
      (prod.create.turn Server.transport w).next.world).answer = .ok b := ⟨_, rfl⟩
  have qualified : ¬ ∀ name ∈ prod.names, Name.IsSimple name := by decide
  obtain ⟨cql, rendered⟩ : ∃ cql, prod.creation = .ok cql := ⟨_, rfl⟩
  refine ⟨Formatter.cql_isCql, ⟨cql, rendered⟩, Server.transport_serves, created, ?_⟩
  have agree := prod.created_eq_asked_iff Formatter.cql_isCql rendered Server.transport
  rcases agree.2 _ Server.transport_serves w created with ⟨b, answer, found⟩ | ⟨e, failed, -⟩
  · have absent : ¬ prod.IsIn w.transport.catalog := List.not_mem_nil
    rw [answer, Bool.eq_false_iff.2 fun is => (found.1 is).elim qualified absent]
  · obtain ⟨b, answer⟩ := told
    rw [answer] at failed
    cases failed

end Handle

end CqlClient
