import CqlClient.Proofs.Connector.Request
import CqlClient.Proofs.Schema.Fault

/-!
# Keyspaces and tables as turns

What the requests of keyspaces and tables come to on the machine: a refusal before the transport is
asked, or statements one after another. Their failures are the transport's, or those of a catalog
that cannot be read.
-/

namespace CqlClient

variable {τ : Type} (T : Transport τ) (w : World τ)

theorem Turn.andThen_settled {α β : Type} (turn : Turn τ α) (g : α → β) :
    (turn.andThen fun a m => settled (.ok (g a)) m) = turn.map g :=
  turn.andThen_answer g

namespace Keyspace

variable (k : Keyspace)

theorem turn_isPresent :
    k.isPresent.turn T w =
      (w.machine.execute T k.connector (.text presenceQuery) [.str k.name]).map (!·.isEmpty) := by
  rw [isPresent, Call.turn_map, Connector.turn_execute]

theorem turn_create (options : KeyspaceOptions) :
    (k.create options).turn T w =
      match k.creation options with
      | .ok cql => (w.machine.execute T k.connector (.text cql) []).map fun _ => ()
      | .error e => .settled (.error e) w.machine := by
  rw [create, Call.turn_givenOk]
  cases k.creation options with
  | error e => rfl
  | ok cql =>
    simp only [Call.turn_andThen, Call.turn_log, Call.turn_ok, Machine.machine_world,
      Turn.andThen_settled, Connector.turn_execute]

end Keyspace

namespace Table

variable (t : Table)

theorem turn_isPresent :
    t.isPresent.turn T w =
      match t.requiredKeyspace with
      | .ok keyspace => (w.machine.execute T t.connector (.text presenceQuery)
          [.str keyspace, .str t.name]).map (!·.isEmpty)
      | .error e => .settled (.error e) w.machine := by
  rw [isPresent, Call.turn_givenOk]
  cases t.requiredKeyspace with
  | error e => rfl
  | ok keyspace => simp only [Call.turn_map, Connector.turn_execute]

theorem turn_columns :
    t.columns.turn T w =
      match t.requiredKeyspace with
      | .ok keyspace => (w.machine.execute T t.connector (.text columnsQuery)
          [.str t.name, .str keyspace]).andThen fun rows m => .settled (readColumns rows) m
      | .error e => .settled (.error e) w.machine := by
  rw [columns, Call.turn_givenOk]
  cases t.requiredKeyspace with
  | error e => rfl
  | ok keyspace =>
    simp only [Call.turn_andThen, Request.ofExcept, Call.turn_done, Machine.machine_world,
      Connector.turn_execute]

theorem turn_create (fields : List Field) :
    (t.create fields).turn T w =
      match t.creation fields with
      | .ok cql => (w.machine.execute T t.connector (.text cql) []).map fun _ => ()
      | .error e => .settled (.error e) w.machine := by
  rw [create, Call.turn_givenOk]
  cases t.creation fields with
  | error e => rfl
  | ok cql =>
    simp only [Call.turn_andThen, Call.turn_log, Call.turn_ok, Machine.machine_world,
      Turn.andThen_settled, Connector.turn_execute]

theorem turn_executeAll_cons (c : Connector) (cql : String) (rest : List String) :
    (executeAll c (cql :: rest)).turn T w =
      (w.machine.execute T c (.text cql) []).andThen fun _ m =>
        (executeAll c rest).turn T m.world := by
  rw [executeAll, Call.turn_andThen, Connector.turn_execute]

theorem turn_reportAdded (added : Nat) :
    (t.reportAdded added).turn T w = .settled (.ok ()) w.machine := by
  unfold reportAdded
  split
  · rfl
  · rw [Call.turn_log, Call.turn_ok]

theorem turn_extend (qualifiedName : String) (fields : List Field) :
    (t.extend qualifiedName fields).turn T w =
      (t.columns.turn T w).andThen fun present m =>
        match t.additions qualifiedName present fields with
        | .ok statements => (executeAll t.connector statements).turn T m.world
        | .error e => .settled (.error e) m := by
  rw [extend, Call.turn_andThen]
  congr 1
  funext present m
  rw [Call.turn_givenOk]
  cases t.additions qualifiedName present fields with
  | error e => simp only [Machine.machine_world]
  | ok statements =>
    have unit (turn : Turn τ Unit) : turn.map (fun _ => ()) = turn := by
      obtain ⟨answer, demands, next⟩ := turn
      cases answer <;> rfl
    simp only [Call.turn_andThen, turn_reportAdded, Machine.machine_world, Turn.andThen_settled, unit]

theorem turn_change (fields : List Field) :
    (t.change fields).turn T w =
      match t.qualifiedName with
      | .ok qualifiedName => (t.isPresent.turn T w).andThen fun present m =>
          if present then (t.extend qualifiedName fields).turn T m.world
          else (t.create fields).turn T m.world
      | .error e => .settled (.error e) w.machine := by
  rw [change, Call.turn_givenOk]
  cases t.qualifiedName with
  | error e => rfl
  | ok qualifiedName =>
    simp only [Call.turn_andThen]
    congr 1
    funext present m
    cases present <;> rfl

/-! ## Their failures -/

variable {T w} {own : Failure → Prop}

theorem isPresent_justified {keyspace : String} (required : t.requiredKeyspace = .ok keyspace) :
    (t.isPresent.turn T w).Justified T own := by
  rw [turn_isPresent, required]
  exact (w.machine.execute_text_justified t.connector _ _).map _

theorem columns_justified {keyspace : String} (required : t.requiredKeyspace = .ok keyspace)
    (unreadable : ∀ f : Failure, f.kind = .json → own f) :
    (t.columns.turn T w).Justified T own := by
  rw [turn_columns, required]
  refine (w.machine.execute_text_justified t.connector _ _).andThen fun rows _ => ?_
  exact .settled (fun e failed => unreadable e.failure (kind_of_readColumns failed)) _

theorem create_justified {fields : List Field} {cql : String} (rendered : t.creation fields = .ok cql) :
    ((t.create fields).turn T w).Justified T own := by
  rw [turn_create, rendered]
  exact (w.machine.execute_text_justified t.connector _ _).map _

theorem executeAll_justified (c : Connector) (statements : List String) (w : World τ) :
    ((executeAll c statements).turn T w).Justified T own := by
  induction statements generalizing w with
  | nil => exact .settled (fun e failed => by cases failed) _
  | cons cql rest ih =>
    rw [turn_executeAll_cons]
    exact (w.machine.execute_text_justified c cql []).andThen fun _ _ => ih _

end Table

end CqlClient
