import CqlClient.Proofs.Schema.Reading
import CqlClient.Proofs.Schema.Turns

/-!
# A server with a catalog

A `Catalog` is the schema that a server keeps: its keyspaces, and its tables with their columns. A
transport serves a catalog, `Transport.Serves`, if it answers the catalog queries from it and does to
it what the statements say that it acknowledges. It may fail anything, and then does nothing.
-/

namespace CqlClient

structure Catalog where
  keyspaces : List String := []
  /-- The columns of the table with this keyspace and name, if it is there. -/
  columns : String → String → Option (List Column) := fun _ _ => none

namespace Catalog

def addKeyspace (c : Catalog) (name : String) : Catalog :=
  if name ∈ c.keyspaces then c else { c with keyspaces := c.keyspaces ++ [name] }

def putTable (c : Catalog) (keyspace table : String) (columns : List Column) : Catalog :=
  { c with columns := fun k t => if k = keyspace ∧ t = table then some columns else c.columns k t }

/-- The column of a definition; the star defines none. -/
def column? (key : List Identifier) : Identifier × String → Option Column
  | (.star, _) => none
  | (.quoted name, type) => some ⟨name, type, .quoted name ∈ key⟩

/-- A table that is there is not created again. -/
def apply (c : Catalog) : SchemaStatement → Catalog
  | .createKeyspace (.quoted name) _ => c.addKeyspace name
  | .createTable (.quoted keyspace) (.quoted table) columns key =>
    match c.columns keyspace table with
    | none => c.putTable keyspace table (columns.filterMap (column? key))
    | some _ => c
  | .addColumn (.quoted keyspace) (.quoted table) column =>
    match c.columns keyspace table with
    | none => c
    | some present => c.putTable keyspace table (present ++ (column? [] column).toList)
  | _ => c

def after (c : Catalog) (cql : String) : Catalog :=
  match SchemaStatement.read cql with
  | none => c
  | some s => c.apply s

theorem after_of_read_eq_none {c : Catalog} {cql : String} (h : SchemaStatement.read cql = none) :
    c.after cql = c := by
  rw [after, h]

theorem after_of_read {c : Catalog} {cql : String} {s : SchemaStatement}
    (h : SchemaStatement.read cql = some s) : c.after cql = c.apply s := by
  rw [after, h]

@[simp] theorem columns_putTable (c : Catalog) (keyspace table : String) (columns : List Column) :
    (c.putTable keyspace table columns).columns keyspace table = some columns :=
  if_pos ⟨rfl, rfl⟩

theorem columns_putTable_of_ne {c : Catalog} {keyspace table k t : String} {columns : List Column}
    (other : ¬ (k = keyspace ∧ t = table)) :
    (c.putTable keyspace table columns).columns k t = c.columns k t :=
  if_neg other

theorem mem_keyspaces_addKeyspace {c : Catalog} {name k : String} :
    k ∈ (c.addKeyspace name).keyspaces ↔ k = name ∨ k ∈ c.keyspaces := by
  rw [addKeyspace]
  split
  · rename_i member
    exact ⟨.inr, fun h => h.elim (fun same => same ▸ member) id⟩
  · rw [List.mem_append, List.mem_singleton, or_comm]

end Catalog

/-- The transport reaches a server that keeps the catalog that is seen in its state. -/
structure Transport.Serves {τ : Type} (T : Transport τ) (view : τ → Catalog) : Prop where
  connect : ∀ config t, view (T.connect config t).2 = view t
  shutdown : ∀ s t, view (T.shutdown s t).2 = view t
  failed : ∀ {s cql params t e}, (T.execute s cql params t).1.outcome = .error e →
    view (T.execute s cql params t).2 = view t
  acknowledged : ∀ {s cql params t response},
    (T.execute s cql params t).1.outcome = .ok response →
      view (T.execute s cql params t).2 = (view t).after cql
  keyspacePresence : ∀ {s name t response},
    (T.execute s Keyspace.presenceQuery [.str name] t).1.outcome = .ok response →
      (response.rows.getD [] ≠ [] ↔ name ∈ (view t).keyspaces)
  tablePresence : ∀ {s keyspace name t response},
    (T.execute s Table.presenceQuery [.str keyspace, .str name] t).1.outcome = .ok response →
      (response.rows.getD [] ≠ [] ↔ ((view t).columns keyspace name).isSome)
  tableColumns : ∀ {s keyspace name t response},
    (T.execute s Table.columnsQuery [.str name, .str keyspace] t).1.outcome = .ok response →
      Table.readColumns (response.rows.getD []) = .ok (((view t).columns keyspace name).getD [])

variable {τ α β : Type} {T : Transport τ} {view : τ → Catalog} {w : World τ}

/-! ## Statements and what they come to -/

theorem Machine.Reaches.view_eq (serves : T.Serves view) {c : Connector} {m : Machine τ}
    {before : List Demand} {s : Session} {n : Nat} {t : τ} (h : m.Reaches T c before s n t) :
    view t = view m.transport := by
  cases h with
  | held held => rfl
  | connected closed came => exact serves.connect _ _

/-- A statement is acknowledged by a session, and its response is the answer; or the turn fails. -/
theorem Machine.Sends.served (serves : T.Serves view) {c : Connector} {cql : String}
    {params : List Json} {m : Machine τ} {turn : Turn τ (List Row)}
    (h : m.Sends T c cql params turn) :
    (∃ s t response, view t = view m.transport ∧
        (T.execute s cql params t).1.outcome = .ok response ∧
        turn.answer = .ok (response.rows.getD []) ∧
        view turn.next.transport = (view m.transport).after cql) ∨
      (∃ f, turn.answer = .error f) ∧ view turn.next.transport = view m.transport := by
  cases h with
  | unconnected closed failed => exact .inr ⟨⟨_, rfl⟩, serves.connect _ _⟩
  | answered reached came =>
    refine .inl ⟨_, _, _, reached.view_eq serves, came, rfl, ?_⟩
    rw [serves.acknowledged came, reached.view_eq serves]
  | failed reached failed =>
    refine .inr ⟨⟨_, rfl⟩, ?_⟩
    exact (serves.shutdown _ _).trans ((serves.failed failed).trans (reached.view_eq serves))

theorem Turn.map_answer_eq_ok {turn : Turn τ α} {g : α → β} {b : β}
    (h : (turn.map g).answer = .ok b) : ∃ a, turn.answer = .ok a ∧ g a = b := by
  cases answer : turn.answer with
  | error f => simp [map, answer, Except.map] at h
  | ok a => exact ⟨a, rfl, by simpa [map, answer, Except.map] using h⟩

theorem Machine.execute_served (serves : T.Serves view) (c : Connector) (cql : String)
    (params : List Json) (m : Machine τ) :
    let turn := (m.execute T c (.text cql) params).map fun _ => ()
    turn.answer = .ok () ∧ view turn.next.transport = (view m.transport).after cql ∨
      (∃ f, turn.answer = .error f) ∧ view turn.next.transport = view m.transport := by
  rcases m.execute_sends.served serves with ⟨s, t, response, -, -, answer, next⟩ | ⟨⟨f, failed⟩, next⟩
  · exact .inl ⟨by rw [Turn.map, answer]; rfl, next⟩
  · exact .inr ⟨⟨f, by rw [Turn.map, failed]; rfl⟩, next⟩

theorem Machine.presence_served (serves : T.Serves view) (c : Connector) {cql : String}
    (silent : SchemaStatement.read cql = none) {params : List Json} {P : Catalog → Prop}
    (answers : ∀ {s t response}, (T.execute s cql params t).1.outcome = .ok response →
      (response.rows.getD [] ≠ [] ↔ P (view t))) (m : Machine τ) :
    let turn := (m.execute T c (.text cql) params).map (!·.isEmpty)
    view turn.next.transport = view m.transport ∧
      ∀ b, turn.answer = .ok b → (b ↔ P (view m.transport)) := by
  rcases m.execute_sends.served serves with
    ⟨s, t, response, same, came, answer, next⟩ | ⟨⟨f, failed⟩, next⟩
  · refine ⟨next.trans (Catalog.after_of_read_eq_none silent), fun b found => ?_⟩
    obtain ⟨rows, rows_eq, rfl⟩ := Turn.map_answer_eq_ok found
    obtain rfl : response.rows.getD [] = rows := Except.ok.inj (answer.symm.trans rows_eq)
    rw [← same, ← answers came]
    simp
  · refine ⟨next, fun b found => ?_⟩
    obtain ⟨rows, rows_eq, -⟩ := Turn.map_answer_eq_ok found
    rw [failed] at rows_eq
    cases rows_eq

theorem Keyspace.isPresent_served (serves : T.Serves view) (k : Keyspace) (w : World τ) :
    let turn := k.isPresent.turn T w
    view turn.next.transport = view w.transport ∧
      ∀ b, turn.answer = .ok b → (b ↔ k.name ∈ (view w.transport).keyspaces) := by
  rw [turn_isPresent]
  exact w.machine.presence_served serves k.connector SchemaStatement.read_keyspacePresenceQuery
    (P := fun c => k.name ∈ c.keyspaces) serves.keyspacePresence

theorem Keyspace.create_served (serves : T.Serves view) {k : Keyspace} {options : KeyspaceOptions}
    {cql : String} (rendered : k.creation options = .ok cql) (w : World τ) :
    let turn := (k.create options).turn T w
    turn.answer = .ok () ∧ view turn.next.transport = (view w.transport).after cql ∨
      (∃ f, turn.answer = .error f) ∧ view turn.next.transport = view w.transport := by
  rw [turn_create, rendered]
  exact w.machine.execute_served serves k.connector cql []

namespace Table

variable {t : Table} {keyspace : String}

theorem isPresent_served (serves : T.Serves view) (has : t.keyspace = some keyspace) (w : World τ) :
    let turn := t.isPresent.turn T w
    view turn.next.transport = view w.transport ∧
      ∀ b, turn.answer = .ok b → (b ↔ ((view w.transport).columns keyspace t.name).isSome) := by
  rw [turn_isPresent, requiredKeyspace_eq_ok_iff.2 has]
  exact w.machine.presence_served serves t.connector SchemaStatement.read_presenceQuery
    (P := fun c => (c.columns keyspace t.name).isSome) serves.tablePresence

theorem create_served (serves : T.Serves view) {fields : List Field} {cql : String}
    (rendered : t.creation fields = .ok cql) (w : World τ) :
    let turn := (t.create fields).turn T w
    turn.answer = .ok () ∧ view turn.next.transport = (view w.transport).after cql ∨
      (∃ f, turn.answer = .error f) ∧ view turn.next.transport = view w.transport := by
  rw [turn_create, rendered]
  exact w.machine.execute_served serves t.connector cql []

theorem columns_served (serves : T.Serves view) (has : t.keyspace = some keyspace) (w : World τ) :
    let turn := t.columns.turn T w
    view turn.next.transport = view w.transport ∧
      ∀ columns, turn.answer = .ok columns →
        columns = ((view w.transport).columns keyspace t.name).getD [] := by
  rw [turn_columns, requiredKeyspace_eq_ok_iff.2 has]
  have silent := Catalog.after_of_read_eq_none (c := view w.transport)
    SchemaStatement.read_columnsQuery
  have sends : w.machine.Sends T t.connector columnsQuery [.str t.name, .str keyspace] _ :=
    w.machine.execute_sends
  rcases sends.served serves with ⟨s, t, response, same, came, answer, next⟩ | ⟨⟨f, failed⟩, next⟩
  · have listed := serves.tableColumns came
    rw [same] at listed
    simp only [Turn.andThen_of_ok answer, listed]
    exact ⟨next.trans silent, fun columns found => (Except.ok.inj found).symm⟩
  · simp only [Turn.andThen_of_error failed]
    exact ⟨next, fun columns found => by cases found⟩

theorem columns_justified_of_serves {own : Failure → Prop} (serves : T.Serves view)
    (has : t.keyspace = some keyspace) (w : World τ) : (t.columns.turn T w).Justified T own := by
  rw [turn_columns, requiredKeyspace_eq_ok_iff.2 has]
  refine (w.machine.execute_text_justified t.connector _ _).andThen fun rows answered => ?_
  have sends : w.machine.Sends T t.connector columnsQuery [.str t.name, .str keyspace] _ :=
    w.machine.execute_sends
  rcases sends.served serves with ⟨s, state, response, -, came, answer, -⟩ | ⟨⟨f, failed⟩, -⟩
  · rw [answer] at answered
    cases answered
    refine .settled (fun e unreadable => ?_) _
    rw [serves.tableColumns came] at unreadable
    cases unreadable
  · rw [failed] at answered
    cases answered

end Table

/-! ## The catalog that a statement comes to -/

namespace Transport

def afterDemand (T : Transport τ) (t : τ) : Demand → τ
  | .connect config => (T.connect config t).2
  | .execute s cql params => (T.execute s cql params t).2
  | .shutdown s => (T.shutdown s t).2

/-- The statements among demands, each with the state of the transport that it came to. -/
def handed (T : Transport τ) : τ → List Demand → List (String × τ)
  | _, [] => []
  | t, d :: ds => (d.statement?.map fun s => (s.1, t)).toList ++ handed T (T.afterDemand t d) ds

theorem handed_append (t : τ) (ds es : List Demand) :
    T.handed t (ds ++ es) = T.handed t ds ++ T.handed (ds.foldl T.afterDemand t) es := by
  induction ds generalizing t with
  | nil => rfl
  | cons d ds ih => rw [List.cons_append, handed, handed, ih, List.append_assoc, List.foldl_cons]

end Transport

namespace Turn

/-- From this state of the transport on, each statement of the turn meets a condition together with
the catalog that it comes to. -/
structure Meets (T : Transport τ) (view : τ → Catalog) (Q : String → Catalog → Prop) (t : τ)
    (turn : Turn τ α) : Prop where
  transport_eq : turn.next.transport = turn.demands.foldl T.afterDemand t
  each : ∀ x ∈ T.handed t turn.demands, Q x.1 (view x.2)

namespace Meets

variable {Q : String → Catalog → Prop}

theorem settled (r : Except CqlError α) (m : Machine τ) :
    (Turn.settled r m).Meets T view Q m.transport :=
  ⟨rfl, fun x handed => by cases handed⟩

theorem map {t : τ} {turn : Turn τ α} (h : turn.Meets T view Q t) (g : α → β) :
    (turn.map g).Meets T view Q t :=
  ⟨h.transport_eq, h.each⟩

theorem andThen {t : τ} {turn : Turn τ α} {k : α → Machine τ → Turn τ β}
    (h : turn.Meets T view Q t)
    (hk : ∀ a, turn.answer = .ok a → (k a turn.next).Meets T view Q turn.next.transport) :
    (turn.andThen k).Meets T view Q t := by
  cases answer : turn.answer with
  | error f =>
    rw [andThen_of_error answer]
    exact ⟨h.transport_eq, h.each⟩
  | ok a =>
    rw [andThen_of_ok answer]
    have later := hk a answer
    rw [h.transport_eq] at later
    constructor
    · exact later.transport_eq.trans List.foldl_append.symm
    · intro x handed
      rcases List.mem_append.1 ((T.handed_append t _ _) ▸ handed) with earlier | handed
      · exact h.each x earlier
      · exact later.each x handed

end Meets

end Turn

theorem Machine.Reaches.foldl_eq {c : Connector} {m : Machine τ} {before : List Demand}
    {s : Session} {n : Nat} {t : τ} (h : m.Reaches T c before s n t) (later : List Demand) :
    (before ++ later).foldl T.afterDemand m.transport = later.foldl T.afterDemand t := by
  cases h <;> rfl

theorem Machine.Reaches.handed_eq {c : Connector} {m : Machine τ} {before : List Demand}
    {s : Session} {n : Nat} {t : τ} (h : m.Reaches T c before s n t) (later : List Demand) :
    T.handed m.transport (before ++ later) = T.handed t later := by
  cases h <;> rfl

theorem Machine.Sends.meets (serves : T.Serves view) {Q : String → Catalog → Prop} {c : Connector}
    {cql : String} {params : List Json} {m : Machine τ} {turn : Turn τ (List Row)}
    (h : m.Sends T c cql params turn) (holds : Q cql (view m.transport)) :
    turn.Meets T view Q m.transport := by
  have only {s : Session} {t : τ} (same : view t = view m.transport) :
      ∀ x ∈ T.handed t [.execute s cql params], Q x.1 (view x.2) := by
    intro x handed
    obtain rfl := List.mem_singleton.1 handed
    exact same ▸ holds
  cases h with
  | unconnected closed failed => exact ⟨rfl, fun x handed => by cases handed⟩
  | answered reached came =>
    constructor
    · rw [reached.foldl_eq]
      rfl
    · rw [reached.handed_eq]
      exact only (reached.view_eq serves)
  | failed reached failed =>
    constructor
    · rw [reached.foldl_eq]
      rfl
    · rw [reached.handed_eq]
      exact only (reached.view_eq serves)

/-! ## A server that fails on plan -/

/-- A catalog, and which of the coming handshakes and statements are to fail. -/
structure Server where
  catalog : Catalog := {}
  failures : List Bool := []

namespace Server

def row (c : Column) : Row :=
  [("kind", .str (if c.primary then "partition_key" else "regular")), ("name", .str c.name),
    ("type", .str c.type)]

/-- What the catalog queries are answered with. -/
def rows (c : Catalog) (cql : String) : List Json → List Row
  | [.str name] =>
    if cql = Keyspace.presenceQuery ∧ name ∈ c.keyspaces then [[("keyspace_name", .str name)]] else []
  | [.str first, .str second] =>
    if cql = Table.columnsQuery then ((c.columns second first).getD []).map row
    else if cql = Table.presenceQuery ∧ (c.columns first second).isSome then
      [[("table_name", .str second)]]
    else []
  | _ => []

def passed (s : Server) : Server := { s with failures := s.failures.tail }

def transport : Transport Server where
  connect _ s :=
    if s.failures.headD false then ({ outcome := .error (.transport "refused") }, s.passed)
    else ({ outcome := .ok () }, s.passed)
  execute _ cql params s :=
    if s.failures.headD false then ({ outcome := .error (.transport "unavailable") }, s.passed)
    else ({ outcome := .ok { rows := some (rows s.catalog cql params) } },
      { s.passed with catalog := s.catalog.after cql })
  shutdown _ s := ({ outcome := .ok () }, s)

theorem readColumns_rows (columns : List Column) :
    Table.readColumns (columns.map row) = .ok columns := by
  have read : (columns.map row).mapM Column.ofRow = .ok columns := by
    induction columns with
    | nil => rfl
    | cons c columns ih =>
      have first : Column.ofRow (row c) = .ok c := by
        obtain ⟨name, type, primary⟩ := c
        cases primary <;> rfl
      rw [List.map_cons, List.mapM_cons, first, ih]
      rfl
  rw [Table.readColumns, read]

theorem execute_ok {s : Session} {cql : String} {params : List Json} {t : Server}
    {response : Response} (h : (transport.execute s cql params t).1.outcome = .ok response) :
    response.rows.getD [] = rows t.catalog cql params ∧
      (transport.execute s cql params t).2.catalog = t.catalog.after cql := by
  unfold transport at h ⊢
  dsimp only at h ⊢
  split at h
  · cases h
  · rename_i works
    cases h
    rw [if_neg works]
    exact ⟨rfl, rfl⟩

theorem execute_error {s : Session} {cql : String} {params : List Json} {t : Server} {e : CqlError}
    (h : (transport.execute s cql params t).1.outcome = .error e) :
    (transport.execute s cql params t).2.catalog = t.catalog := by
  unfold transport at h ⊢
  dsimp only at h ⊢
  split at h
  · rename_i fails
    rw [if_pos fails]
    rfl
  · cases h

theorem transport_serves : transport.Serves catalog where
  connect config t := by
    unfold transport
    dsimp only
    split <;> rfl
  shutdown s t := rfl
  failed h := execute_error h
  acknowledged h := (execute_ok h).2
  keyspacePresence h := by
    rw [(execute_ok h).1]
    simp [rows]
  tablePresence h := by
    have other : Table.presenceQuery ≠ Table.columnsQuery := by decide
    rw [(execute_ok h).1, rows, if_neg other]
    simp [Option.isSome_iff_ne_none]
  tableColumns h := by
    rw [(execute_ok h).1, rows, if_pos rfl]
    exact readColumns_rows _

end Server

end CqlClient
