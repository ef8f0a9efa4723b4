import CqlClient.Proofs.Schema.Listing
import CqlClient.Proofs.Schema.Server

/-!
# What a change hands over

A turn follows a plan, `Turn.Follows`, if it hands over its statements one after another, up to one
that fails. In the plans of a change, `Table.Plans`, whatever alters the table comes after all that
is rendered and read. By `Table.change_follows_plan` a change follows one of them.
-/

namespace CqlClient

variable {τ α β : Type} {T : Transport τ} {c : Connector}

/-! ## Plans -/

/-- A statement and the rows that answer it. -/
structure Exchange where
  cql : String
  params : List Json
  rows : List Row

def Exchange.statement (x : Exchange) : String × List Json := (x.cql, x.params)

/-- The turn goes through the exchanges of the plan and comes to the result, or up to a statement
that fails. -/
inductive Turn.Follows (T : Transport τ) (c : Connector) (result : Except CqlError α) :
    List Exchange → Machine τ → Turn τ α → Prop where
  | finished (m : Machine τ) : Follows T c result [] m (.settled result m)
  | answered {x : Exchange} {plan : List Exchange} {m next : Machine τ} {demands : List Demand}
      {later : Turn τ α} (sent : m.Sends T c x.cql x.params ⟨.ok x.rows, demands, next⟩)
      (rest : Follows T c result plan next later) :
      Follows T c result (x :: plan) m (later.after demands)
  | failed {x : Exchange} {plan : List Exchange} {m next : Machine τ} {demands : List Demand}
      {f : Failure} (sent : m.Sends T c x.cql x.params ⟨.error f, demands, next⟩) :
      Follows T c result (x :: plan) m ⟨.error f, demands, next⟩

namespace Transport

/-- The failure to connect or to run a statement. -/
def failure? (T : Transport τ) (t : τ) : Demand → Option CqlError
  | .connect config =>
    match (T.connect config t).1.outcome with
    | .ok _ => none
    | .error e => some e
  | .execute s cql params =>
    match (T.execute s cql params t).1.outcome with
    | .ok _ => none
    | .error e => some e
  | .shutdown _ => none

/-- The first failure that demands meet from a state on, and the demands after it. -/
def firstFailure (T : Transport τ) : τ → List Demand → Option (CqlError × List Demand)
  | _, [] => none
  | t, d :: ds =>
    match T.failure? t d with
    | some e => some (e, ds)
    | none => T.firstFailure (T.afterDemand t d) ds

end Transport

section Sends

variable {cql : String} {params : List Json} {m : Machine τ} {turn : Turn τ (List Row)}

theorem Machine.Reaches.firstFailure_eq {before : List Demand} {s : Session} {n : Nat} {t : τ}
    (h : m.Reaches T c before s n t) (later : List Demand) :
    T.firstFailure m.transport (before ++ later) = T.firstFailure t later := by
  cases h with
  | held held => rfl
  | connected closed came =>
    rw [List.singleton_append, Transport.firstFailure, Transport.failure?, came]
    rfl

theorem Machine.Sends.firstFailure_of_ok (h : m.Sends T c cql params turn) {rows : List Row}
    (answer : turn.answer = .ok rows) (later : List Demand) :
    T.firstFailure m.transport (turn.demands ++ later) =
      T.firstFailure turn.next.transport later := by
  cases h with
  | unconnected closed failed => cases answer
  | answered reached came =>
    rw [List.append_assoc, reached.firstFailure_eq, List.singleton_append, Transport.firstFailure,
      Transport.failure?, came]
    rfl
  | failed reached failed => cases answer

theorem Machine.Sends.firstFailure_of_error (h : m.Sends T c cql params turn) {f : Failure}
    (answer : turn.answer = .error f) :
    ∃ e after, T.firstFailure m.transport turn.demands = some (e, after) ∧ f = e.failure ∧
      turn.next.state = .closed ∧ ∀ d ∈ after, ∃ s, d = .shutdown s := by
  cases h with
  | @unconnected e closed failed =>
    refine ⟨e, [], ?_, (Except.error.inj answer).symm, closed, by simp⟩
    rw [Transport.firstFailure, Transport.failure?, failed]
  | answered reached came => cases answer
  | @failed before s n t e reached failed =>
    refine ⟨e, [.shutdown s], ?_, (Except.error.inj answer).symm, rfl, by simp⟩
    rw [reached.firstFailure_eq, Transport.firstFailure, Transport.failure?, failed]

theorem Machine.Sends.isOpen_of_ok (h : m.Sends T c cql params turn) {rows : List Row}
    (answer : turn.answer = .ok rows) : turn.next.state.isOpen := by
  cases h with
  | unconnected closed failed => cases answer
  | answered reached came => rfl
  | failed reached failed => cases answer

end Sends

namespace Turn

theorem map_andThen {γ : Type} (turn : Turn τ α) (g : α → β) (k : β → Machine τ → Turn τ γ) :
    (turn.map g).andThen k = turn.andThen fun a => k (g a) := by
  obtain ⟨answer, demands, next⟩ := turn
  cases answer <;> rfl

theorem andThen_andThen {γ : Type} (turn : Turn τ α) (k : α → Machine τ → Turn τ β)
    (k' : β → Machine τ → Turn τ γ) :
    (turn.andThen k).andThen k' = turn.andThen fun a m => (k a m).andThen k' := by
  cases answer : turn.answer with
  | error f =>
    rw [andThen_of_error answer, andThen_of_error answer]
    rfl
  | ok a => rw [andThen_of_ok answer, andThen_of_ok answer, andThen_after]

theorem settled_andThen (a : α) (m : Machine τ) (k : α → Machine τ → Turn τ β) :
    (settled (.ok a) m).andThen k = k a m := rfl

variable {result : Except CqlError α} {plan : List Exchange} {m : Machine τ} {turn : Turn τ α}

theorem Follows.statements_prefix (h : turn.Follows T c result plan m) :
    turn.statements <+: plan.map Exchange.statement := by
  induction h with
  | finished m => exact List.nil_prefix
  | @answered x plan m next demands later sent rest ih =>
    have one : demands.filterMap Demand.statement? = [x.statement] := sent.statements_of_ok rfl
    rw [statements_after, one, List.map_cons]
    exact (List.prefix_append_right_inj [x.statement]).2 ih
  | @failed x plan m next demands f sent =>
    rcases sent.statements_eq with one | ⟨none, -⟩
    · exact ⟨plan.map Exchange.statement, congrArg (· ++ plan.map Exchange.statement) one⟩
    · exact ⟨(x :: plan).map Exchange.statement, congrArg (· ++ _) none⟩

/-- A failure is returned and closes the connector, and no other statement follows it. Without one
the whole plan is handed over, and the connector is open unless nothing was planned. -/
theorem Follows.outcome (h : turn.Follows T c result plan m) :
    match T.firstFailure m.transport turn.demands with
    | some (e, after) => turn.answer = .error e.failure ∧ turn.next.state = .closed ∧
        ∀ d ∈ after, ∃ s, d = .shutdown s
    | none => turn.answer = result.mapError CqlError.failure ∧
        turn.statements = plan.map Exchange.statement ∧
        (turn.next.state.isOpen ∨ plan = [] ∧ turn.next = m) := by
  induction h with
  | finished m => exact ⟨rfl, rfl, .inr ⟨rfl, rfl⟩⟩
  | @answered x plan m next demands later sent rest ih =>
    have goes := sent.firstFailure_of_ok rfl later.demands
    simp only [Turn.after, goes]
    split
    · rename_i found
      simpa only [found] using ih
    · rename_i found
      simp only [found] at ih
      obtain ⟨answer, whole, kept⟩ := ih
      refine ⟨answer, ?_, .inl ?_⟩
      · have one : demands.filterMap Demand.statement? = [x.statement] := sent.statements_of_ok rfl
        rw [statements, List.filterMap_append, one, List.map_cons, ← whole]
        rfl
      · rcases kept with isOpen | ⟨-, same⟩
        · exact isOpen
        · rw [same]
          exact sent.isOpen_of_ok rfl
  | failed sent =>
    obtain ⟨e, after, found, rfl, closed, only⟩ := sent.firstFailure_of_error rfl
    rw [found]
    exact ⟨rfl, closed, only⟩

end Turn

/-- A statement goes on with a plan if every answer to it does. -/
theorem Machine.execute_follows {P : List Exchange → Except CqlError α → Prop} {cql : String}
    {params : List Json} {k : List Row → Machine τ → Turn τ α} (m : Machine τ)
    (goes : ∀ rows next, ∃ plan result, P (⟨cql, params, rows⟩ :: plan) result ∧
      (k rows next).Follows T c result plan next) :
    ∃ plan result, P plan result ∧
      ((m.execute T c (.text cql) params).andThen k).Follows T c result plan m := by
  generalize handed : m.execute T c (.text cql) params = turn
  have sends : m.Sends T c cql params turn := handed ▸ m.execute_sends
  obtain ⟨answer, demands, next⟩ := turn
  cases answer with
  | error f =>
    -- the plan ends here, so whatever would have come after an answer will do
    obtain ⟨plan, result, planned, -⟩ := goes [] next
    exact ⟨_, result, planned, .failed sends⟩
  | ok rows =>
    obtain ⟨plan, result, planned, follows⟩ := goes rows next
    exact ⟨_, result, planned, .answered sends follows⟩

/-- The row is read as the column, and it lists it if no name in it is repeated. -/
structure Column.Read (row : Row) (c : Column) : Prop where
  read : ofRow row = .ok c
  lists : (row.map Prod.fst).Nodup → Lists row c

/-- The row is not read, and the error says why it lists no column if no name in it is repeated. -/
structure Column.Unread (row : Row) (e : Json.ShapeError) : Prop where
  unread : ofRow row = .error e
  fault : (row.map Prod.fst).Nodup → RowFault row e

theorem Column.Read.of_ofRow {row : Row} {c : Column} (read : ofRow row = .ok c) : Read row c :=
  ⟨read, fun different => (ofRow_eq_ok_iff different).1 read⟩

theorem Column.Unread.of_ofRow {row : Row} {e : Json.ShapeError} (unread : ofRow row = .error e) :
    Unread row e :=
  ⟨unread, fun different => (ofRow_eq_error_iff different).1 unread⟩

namespace Table

variable {t : Table} {fields : List Field}

/-! ## The plans of a change -/

def asksPresence (t : Table) (keyspace : String) (rows : List Row) : Exchange :=
  ⟨presenceQuery, [.str keyspace, .str t.name], rows⟩

def asksColumns (t : Table) (keyspace : String) (catalog : List Row) : Exchange :=
  ⟨columnsQuery, [.str t.name, .str keyspace], catalog⟩

/-- The table has this keyspace, and this is its full name as it is written. -/
inductive Named (t : Table) (keyspace : String) : String → Prop where
  | intro {k n : String} (has : t.keyspace = some keyspace)
      (written : t.connector.formatter.escapeName keyspace = .ok k)
      (written' : t.connector.formatter.escapeName t.name = .ok n) :
      Named t keyspace (k ++ "." ++ n)

/-- The table has no keyspace, or one of its names is rejected. -/
inductive Unnamed (t : Table) : CqlError → Prop where
  | absent (absent : t.keyspace = none) : Unnamed t (.configuration (.noKeyspace t.name))
  | keyspace {keyspace : String} {e : CqlError} (has : t.keyspace = some keyspace)
      (rejected : t.connector.formatter.escapeName keyspace = .error e) : Unnamed t e
  | table {keyspace : String} {e : CqlError} (has : t.keyspace = some keyspace)
      (rejected : t.connector.formatter.escapeName t.name = .error e) : Unnamed t e

/-- The statement adds the field as a column to the table of this name. -/
inductive Alters (t : Table) (name : String) (f : Field) : Exchange → Prop where
  | intro {column type : String} {rows : List Row} (value : f.primary = false)
      (written : t.connector.formatter.escapeName f.name = .ok column)
      (typed : f.columnType = .ok type) :
      Alters t name f ⟨"ALTER TABLE " ++ name ++ " ADD " ++ (column ++ " " ++ type), [], rows⟩

/-- The field is of the key, or its name or its type is rejected. -/
inductive Unaddable (t : Table) (f : Field) : CqlError → Prop where
  | key (primary : f.primary) : Unaddable t f (.configuration (.addedPrimaryKey f.name t.name))
  | name {e : CqlError} (rejected : t.connector.formatter.escapeName f.name = .error e) :
      Unaddable t f e
  | type {e : CqlError} (rejected : f.columnType = .error e) : Unaddable t f e

/-- What a change plans, by the answers to its questions, and what it comes to. -/
inductive Plans (t : Table) (fields : List Field) :
    List Exchange → Except CqlError Unit → Prop where
  | unnamed {e : CqlError} (unnamed : t.Unnamed e) : Plans t fields [] (.error e)
  | undefined {keyspace name : String} {e : CqlError} (named : t.Named keyspace name)
      (refused : t.creation fields = .error e) :
      Plans t fields [t.asksPresence keyspace []] (.error e)
  | created {keyspace name cql : String} {rows : List Row} (named : t.Named keyspace name)
      (rendered : t.creation fields = .ok cql) :
      Plans t fields [t.asksPresence keyspace [], ⟨cql, [], rows⟩] (.ok ())
  | malformed {keyspace name : String} {found catalog : List Row} {row : Row}
      {e : Json.ShapeError} (named : t.Named keyspace name) (present : found ≠ [])
      (member : row ∈ catalog) (malformed : Column.Unread row e) :
      Plans t fields [t.asksPresence keyspace found, t.asksColumns keyspace catalog]
        (.error (.json (.shape e)))
  | unaddable {keyspace name : String} {found catalog : List Row} {columns : List Column}
      {f : Field} {e : CqlError} (named : t.Named keyspace name) (present : found ≠ [])
      (listed : List.Forall₂ Column.Read catalog columns)
      (missing : f ∈ missing columns fields) (unaddable : t.Unaddable f e) :
      Plans t fields [t.asksPresence keyspace found, t.asksColumns keyspace catalog] (.error e)
  | extended {keyspace name : String} {found catalog : List Row} {columns : List Column}
      {additions : List Exchange} (named : t.Named keyspace name) (present : found ≠ [])
      (listed : List.Forall₂ Column.Read catalog columns)
      (each : List.Forall₂ (t.Alters name) (Table.missing columns fields) additions) :
      Plans t fields (t.asksPresence keyspace found :: t.asksColumns keyspace catalog :: additions)
        (.ok ())

/-! ## A change follows one of them -/

theorem exists_named {name : String} (h : t.qualifiedName = .ok name) :
    ∃ keyspace, t.Named keyspace name := by
  obtain ⟨keyspace, has, h⟩ := bind_eq_ok.1 h
  obtain ⟨k, written, h⟩ := bind_eq_ok.1 h
  obtain ⟨n, written', h⟩ := bind_eq_ok.1 h
  obtain rfl := Except.ok.inj h
  exact ⟨keyspace, .intro (requiredKeyspace_eq_ok_iff.1 has) written written'⟩

theorem unnamed_of_error {e : CqlError} (h : t.qualifiedName = .error e) : t.Unnamed e := by
  rcases bind_eq_error.1 h with absent | ⟨keyspace, has, h⟩
  · rw [requiredKeyspace] at absent
    split at absent
    · cases absent
    · rename_i absent'
      obtain rfl := Except.error.inj absent
      exact .absent absent'
  have has := requiredKeyspace_eq_ok_iff.1 has
  rcases bind_eq_error.1 h with rejected | ⟨k, written, h⟩
  · exact .keyspace has rejected
  rcases bind_eq_error.1 h with rejected | ⟨n, -, h⟩
  · exact .table has rejected
  · cases h

theorem alters_of_addition {name cql : String} {f : Field} (h : t.addition name f = .ok cql)
    (rows : List Row) : t.Alters name f ⟨cql, [], rows⟩ := by
  rw [addition] at h
  split at h
  · cases h
  · rename_i value
    obtain ⟨definition, defined, h⟩ := bind_eq_ok.1 h
    obtain ⟨column, written, defined⟩ := bind_eq_ok.1 defined
    obtain ⟨type, typed, defined⟩ := bind_eq_ok.1 defined
    obtain rfl := Except.ok.inj defined
    obtain rfl := Except.ok.inj h
    exact .intro (Bool.eq_false_iff.2 value) written typed

theorem unaddable_of_addition {name : String} {f : Field} {e : CqlError}
    (h : t.addition name f = .error e) : t.Unaddable f e := by
  rw [addition] at h
  split at h
  · rename_i primary
    obtain rfl := Except.error.inj h
    exact .key primary
  · rcases bind_eq_error.1 h with undefined | ⟨definition, -, h⟩
    · rcases bind_eq_error.1 undefined with rejected | ⟨column, -, undefined⟩
      · exact .name rejected
      · rcases bind_eq_error.1 undefined with rejected | ⟨type, -, undefined⟩
        · exact .type rejected
        · cases undefined
    · cases h

theorem executeAll_follows {γ : Type} {R : γ → Exchange → Prop} {xs : List γ}
    {statements : List String}
    (each : List.Forall₂ (fun x cql => ∀ rows, R x ⟨cql, [], rows⟩) xs statements) (m : Machine τ) :
    ∃ plan, List.Forall₂ R xs plan ∧
      ((executeAll c statements).turn T m.world).Follows T c (.ok ()) plan m := by
  induction each generalizing m with
  | nil =>
    rw [executeAll, Call.turn_ok, Machine.machine_world]
    exact ⟨[], .nil, .finished m⟩
  | @cons x cql xs statements head tail ih =>
    rw [turn_executeAll_cons, Machine.machine_world]
    have goes (rows : List Row) (next : Machine τ) : ∃ plan result,
        (List.Forall₂ R (x :: xs) (⟨cql, [], rows⟩ :: plan) ∧ result = .ok ()) ∧
          ((executeAll c statements).turn T next.world).Follows T c result plan next := by
      obtain ⟨plan, planned, follows⟩ := ih next
      exact ⟨plan, .ok (), ⟨.cons (head rows) planned, rfl⟩, follows⟩
    obtain ⟨plan, result, ⟨planned, rfl⟩, follows⟩ := m.execute_follows
      (P := fun plan result => List.Forall₂ R (x :: xs) plan ∧ result = .ok ()) goes
    exact ⟨plan, planned, follows⟩

theorem change_follows (t : Table) (fields : List Field) (T : Transport τ) (w : World τ) :
    ∃ plan result, t.Plans fields plan result ∧
      ((t.change fields).turn T w).Follows T t.connector result plan w.machine := by
  rw [turn_change]
  cases written : t.qualifiedName with
  | error e => exact ⟨[], .error e, .unnamed (unnamed_of_error written), .finished _⟩
  | ok name =>
    obtain ⟨keyspace, named⟩ := exists_named written
    have required : t.requiredKeyspace = .ok keyspace := by
      cases named with
      | intro has => exact requiredKeyspace_eq_ok_iff.2 has
    simp only [turn_isPresent, required, Turn.map_andThen]
    refine w.machine.execute_follows fun found m => ?_
    cases found with
    | nil =>
      rw [if_neg (by simp), turn_create, Machine.machine_world]
      cases rendered : t.creation fields with
      | error e => exact ⟨[], .error e, .undefined named rendered, .finished m⟩
      | ok cql =>
        simp only [← Turn.andThen_settled]
        exact m.execute_follows
          (P := fun plan => t.Plans fields (t.asksPresence keyspace [] :: plan))
          fun rows next => ⟨[], .ok (), .created named rendered, .finished next⟩
    | cons row found =>
      have present : row :: found ≠ [] := List.cons_ne_nil row found
      rw [if_pos (by simp), turn_extend, turn_columns, required, Machine.machine_world]
      simp only [Turn.andThen_andThen]
      refine m.execute_follows
        (P := fun plan => t.Plans fields (t.asksPresence keyspace (row :: found) :: plan))
        fun catalog m => ?_
      rw [readColumns]
      cases listed : catalog.mapM Column.ofRow with
      | error e =>
        obtain ⟨row, member, malformed⟩ := exists_of_mapM_eq_error listed
        exact ⟨[], .error (.json (.shape e)), .malformed named present member (.of_ofRow malformed),
          .finished m⟩
      | ok columns =>
        have listed := (mapM_eq_ok.1 listed).imp fun row c read => Column.Read.of_ofRow read
        simp only [Turn.settled_andThen]
        cases rendered : t.additions name columns fields with
        | error e =>
          obtain ⟨f, missing, refused⟩ := exists_of_mapM_eq_error rendered
          exact ⟨[], .error e,
            .unaddable named present listed missing (unaddable_of_addition refused), .finished m⟩
        | ok statements =>
          have each := (mapM_eq_ok.1 rendered).imp fun f cql added rows =>
            alters_of_addition (t := t) added rows
          obtain ⟨plan, planned, follows⟩ := executeAll_follows each m
          exact ⟨plan, .ok (), .extended named present listed planned, follows⟩

/-- What a change hands over begins one of its plans. The first failure of the transport ends it and
closes the connector; without one it is the whole plan, and a session that was asked stays open. -/
theorem change_follows_plan (t : Table) (fields : List Field) (T : Transport τ) (w : World τ) :
    let turn := (t.change fields).turn T w
    ∃ plan result, t.Plans fields plan result ∧
      turn.Follows T t.connector result plan w.machine ∧
      turn.statements <+: plan.map Exchange.statement ∧
      match T.firstFailure w.transport turn.demands with
      | some (e, after) => turn.answer = .error e.failure ∧ turn.next.state = .closed ∧
          ∀ d ∈ after, ∃ s, d = .shutdown s
      | none => turn.answer = result.mapError CqlError.failure ∧
          turn.statements = plan.map Exchange.statement ∧
          (turn.next.state.isOpen ∨ plan = [] ∧ turn.next = w.machine) := by
  obtain ⟨plan, result, planned, follows⟩ := t.change_follows fields T w
  exact ⟨plan, result, planned, follows, follows.statements_prefix, follows.outcome⟩

example :
    let catalog : List Row :=
      [[("kind", .str "partition_key"), ("name", .str "id"), ("type", .str "uuid")],
        [("kind", .null), ("name", .str "label"), ("type", .str "text")]]
    let w : World (List (List Row)) :=
      { transport := [[[("table_name", .str "products")]], catalog] }
    let fields := [Field.key "id" "Guid", { name := "price", type := "Currency" },
      { name := "label", type := "Text" }, { name := "taken", type := "Image", many := true }]
    let turn := (products.change fields).turn .replaying w
    turn.answer = .ok () ∧ turn.statements =
      [(presenceQuery, [.str "shop", .str "products"]),
        (columnsQuery, [.str "products", .str "shop"]),
        ("ALTER TABLE \"shop\".\"products\" ADD \"price\" DECIMAL(19,4)", []),
        ("ALTER TABLE \"shop\".\"products\" ADD \"taken\" LIST<BLOB>", [])] := ⟨rfl, rfl⟩

end Table

end CqlClient
