import CqlClient.Native.Transport
import CqlClient.Proofs.Schema.Turns

/-!
# Refusals before and after input and output

A configuration error is to say that a request was refused before the transport was asked for a
session or handed a statement. By `Task.refusedLate_iff` this fails in two ways only: a change is
not rendered once the catalog was asked, and a native session finds parameters that do not bind once
it has prepared their statement.
-/

namespace CqlClient

variable {τ κ α β : Type}

inductive Task where
  | connector (c : Connector) (command : Command)
  | keyspacePresence (k : Keyspace)
  | keyspaceCreation (k : Keyspace) (options : KeyspaceOptions)
  | tablePresence (t : Table)
  | tableColumns (t : Table)
  | tableCreation (t : Table) (fields : List Field)
  | tableChange (t : Table) (fields : List Field)

def Request.discarded (r : Request α) : Request Unit := r.andThen fun _ => Request.ok ()

/-- The request of a task; what it is answered with is of no account here. -/
def Task.call : Task → Request Unit
  | .connector c command => Request.discarded (command.call c)
  | .keyspacePresence k => Request.discarded k.isPresent
  | .keyspaceCreation k options => k.create options
  | .tablePresence t => Request.discarded t.isPresent
  | .tableColumns t => Request.discarded t.columns
  | .tableCreation t fields => t.create fields
  | .tableChange t fields => t.change fields

def Demand.IsContact : Demand → Prop
  | .shutdown _ => False
  | _ => True

/-- A configuration error came after a session was asked for or a statement was handed over. -/
def Turn.RefusedLate (turn : Turn τ α) : Prop :=
  (∃ f, turn.answer = .error f ∧ f.kind = .configuration) ∧ ∃ d ∈ turn.demands, d.IsContact

/-- The change is not rendered, but only once the catalog has told whether the table is there. -/
inductive Table.FaultsLate (T : Transport τ) (w : World τ) (t : Table) (fields : List Field) :
    Prop where
  | creation {name : String} {e : CqlError} (named : t.qualifiedName = .ok name)
      (absent : (t.isPresent.turn T w).answer = .ok false) (fault : t.creation fields = .error e)
  | addition {name : String} {columns : List Column} {e : CqlError}
      (named : t.qualifiedName = .ok name) (present : (t.isPresent.turn T w).answer = .ok true)
      (listed : (t.columns.turn T (t.isPresent.turn T w).next.world).answer = .ok columns)
      (fault : t.additions name columns fields = .error e)

def Task.FaultsLate (T : Transport τ) (w : World τ) : Task → Prop
  | .tableChange t fields => t.FaultsLate T w fields
  | _ => False

/-- All failures of the transport are transport errors. -/
structure Transport.FailsInTransport (T : Transport τ) : Prop where
  connect : ∀ {config t e}, (T.connect config t).1.outcome = .error e → e.kind = .transport
  execute : ∀ {s cql params t e}, (T.execute s cql params t).1.outcome = .error e →
    e.kind = .transport
  shutdown : ∀ {s t e}, (T.shutdown s t).1.outcome = .error e → e.kind = .transport

/-- The last statement was prepared, but its parameters did not bind, and it was not run. -/
inductive Turn.Unbound (C : Cluster κ) (turn : Turn κ α) : Prop where
  | intro {s : Session} {cql : String} {params : List Json} {k : κ} {markers : List Marker}
      {e : CqlError} (handed : .execute s cql params ∈ turn.demands)
      (prepared : (C.prepare s cql k).1 = .ok markers)
      (unbound : Native.bindAll markers params = .error e)
      (answer : turn.answer = .error e.failure) (left : turn.next.transport = (C.prepare s cql k).2)

/-! ## Every refusal has its reason -/

/-- The transport was not asked for anything, or whatever fails for another reason than the
transport is no configuration error. -/
def Turn.Sound (T : Transport τ) (turn : Turn τ α) : Prop :=
  turn.demands = [] ∨ turn.Justified T fun f => f.kind ≠ .configuration

theorem Turn.Sound.map {T : Transport τ} {turn : Turn τ α} (h : turn.Sound T) (g : α → β) :
    (turn.map g).Sound T :=
  h.imp id fun justified => justified.map g

section Reasons

variable {T : Transport τ} {w : World τ}

theorem Request.turn_discarded (r : Request α) :
    (discarded r).turn T w = (r.turn T w).map fun _ => () := by
  rw [discarded, Call.turn_map]

theorem Command.sound (command : Command) (c : Connector) : ((command.call c).turn T w).Sound T := by
  have statement (statement : Statement) (params : List Json) :
      (w.machine.execute T c statement params).Sound T :=
    .inr (w.machine.execute_justified c (fun _ => by simp) statement params)
  rw [turn_call]
  cases command with
  | connect => exact .inr ((w.machine.acquire_justified c).map _)
  | execute cql params => exact (statement cql params).map _
  | healthCheck => exact (statement _ []).map _
  | close => exact .inr (w.machine.close_justified.map _)

theorem Keyspace.presence_sound (k : Keyspace) : (k.isPresent.turn T w).Sound T := by
  rw [turn_isPresent]
  exact .inr ((w.machine.execute_text_justified k.connector _ _).map _)

theorem Keyspace.creation_sound (k : Keyspace) (options : KeyspaceOptions) :
    ((k.create options).turn T w).Sound T := by
  rw [turn_create]
  cases k.creation options with
  | error e => exact .inl rfl
  | ok cql => exact .inr ((w.machine.execute_text_justified k.connector _ _).map _)

namespace Table

variable (t : Table)

theorem presence_sound : (t.isPresent.turn T w).Sound T := by
  cases required : t.requiredKeyspace with
  | error e =>
    rw [turn_isPresent, required]
    exact .inl rfl
  | ok keyspace => exact .inr (t.isPresent_justified required)

theorem columns_sound : (t.columns.turn T w).Sound T := by
  cases required : t.requiredKeyspace with
  | error e =>
    rw [turn_columns, required]
    exact .inl rfl
  | ok keyspace => exact .inr (t.columns_justified required fun f json => by simp [json])

theorem creation_sound (fields : List Field) : ((t.create fields).turn T w).Sound T := by
  cases rendered : t.creation fields with
  | error e =>
    rw [turn_create, rendered]
    exact .inl rfl
  | ok cql => exact .inr (t.create_justified rendered)

theorem change_sound (fields : List Field) :
    ((t.change fields).turn T w).Sound T ∨ t.FaultsLate T w fields := by
  rw [turn_change]
  cases named : t.qualifiedName with
  | error e => exact .inl (.inl rfl)
  | ok name =>
    obtain ⟨keyspace, required⟩ := requiredKeyspace_of_qualifiedName named
    -- once there is a name the catalog is asked, and no other refusal is left
    by_cases faults : t.FaultsLate T w fields
    · exact .inr faults
    refine .inl (.inr ((t.isPresent_justified required).andThen fun present answer => ?_))
    cases present with
    | false =>
      cases rendered : t.creation fields with
      | error e => exact absurd (.creation named answer rendered) faults
      | ok cql => exact t.create_justified rendered
    | true =>
      rw [if_pos rfl, turn_extend]
      have readable : (t.columns.turn T (t.isPresent.turn T w).next.world).Justified T
          fun f => f.kind ≠ .configuration :=
        t.columns_justified required fun f json => by simp [json]
      refine readable.andThen fun columns listed => ?_
      cases rendered : t.additions name columns fields with
      | error e => exact absurd (.addition named answer listed rendered) faults
      | ok statements => exact executeAll_justified _ _ _

end Table

theorem Task.sound (task : Task) : (task.call.turn T w).Sound T ∨ task.FaultsLate T w := by
  cases task with
  | connector c command =>
    rw [call, Request.turn_discarded]
    exact .inl ((command.sound c).map _)
  | keyspacePresence k =>
    rw [call, Request.turn_discarded]
    exact .inl (k.presence_sound.map _)
  | keyspaceCreation k options => exact .inl (k.creation_sound options)
  | tablePresence t =>
    rw [call, Request.turn_discarded]
    exact .inl (t.presence_sound.map _)
  | tableColumns t =>
    rw [call, Request.turn_discarded]
    exact .inl (t.columns_sound.map _)
  | tableCreation t fields => exact .inl (t.creation_sound fields)
  | tableChange t fields => exact t.change_sound fields

theorem Turn.RefusedLate.blames {turn : Turn τ α} (h : turn.RefusedLate) (sound : turn.Sound T) :
    ∃ e : CqlError, e.kind = .configuration ∧ turn.answer = .error e.failure ∧ turn.Blames T e := by
  obtain ⟨⟨f, answer, kind⟩, d, asked, -⟩ := h
  rcases sound with none | justified
  · rw [none] at asked
    cases asked
  · rcases justified f answer with ⟨e, rfl, blames⟩ | other
    · exact ⟨e, kind, answer, blames⟩
    · exact absurd kind other

theorem Turn.Blames.kind_eq {turn : Turn τ α} {e : CqlError} (h : turn.Blames T e)
    (fails : T.FailsInTransport) : e.kind = .transport := by
  cases h with
  | connect asked failed => exact fails.connect failed
  | execute asked failed left => exact fails.execute failed
  | shutdown asked failed => exact fails.shutdown failed

end Reasons

/-! ## Late refusals -/

section Late

variable {T : Transport τ} {w : World τ}

theorem Machine.Sends.contact {c : Connector} {cql : String} {params : List Json} {m : Machine τ}
    {turn : Turn τ (List Row)} (h : m.Sends T c cql params turn) : ∃ d ∈ turn.demands, d.IsContact := by
  cases h with
  | unconnected closed failed => exact ⟨_, List.mem_cons_self, trivial⟩
  | answered reached came =>
    exact ⟨_, List.mem_append_right _ List.mem_cons_self, trivial⟩
  | failed reached failed =>
    exact ⟨_, List.mem_append_right _ List.mem_cons_self, trivial⟩

theorem Table.isPresent_contact {t : Table} {keyspace : String}
    (required : t.requiredKeyspace = .ok keyspace) :
    ∃ d ∈ (t.isPresent.turn T w).demands, d.IsContact := by
  rw [turn_isPresent, required]
  exact w.machine.execute_sends.contact

theorem Table.FaultsLate.refusedLate {t : Table} {fields : List Field}
    (h : t.FaultsLate T w fields) : ((t.change fields).turn T w).RefusedLate := by
  have late {name : String} {turn : Turn τ Unit} {e : CqlError} (named : t.qualifiedName = .ok name)
      (kind : e.kind = .configuration) (failed : turn.answer = .error e.failure) :
      (turn.after (t.isPresent.turn T w).demands).RefusedLate := by
    obtain ⟨keyspace, required⟩ := requiredKeyspace_of_qualifiedName named
    obtain ⟨d, asked, contact⟩ := t.isPresent_contact (T := T) (w := w) required
    exact ⟨⟨e.failure, failed, kind⟩, d, List.mem_append_left _ asked, contact⟩
  rw [turn_change]
  cases h with
  | creation named absent fault =>
    simp only [named]
    rw [Turn.andThen_of_ok absent]
    refine late named (kind_of_creation fault) ?_
    rw [if_neg (by simp), turn_create, fault]
    rfl
  | addition named present listed fault =>
    simp only [named]
    rw [Turn.andThen_of_ok present]
    refine late named (kind_of_additions fault) ?_
    rw [if_pos rfl, turn_extend, Turn.andThen_of_ok listed]
    simp only [fault]
    rfl

theorem Task.FaultsLate.refusedLate {task : Task} (h : task.FaultsLate T w) :
    (task.call.turn T w).RefusedLate := by
  cases task with
  | tableChange t fields => exact Table.FaultsLate.refusedLate h
  | _ => cases h

end Late

namespace Native

variable {C : Cluster κ}

theorem kind_of_bindAll {markers : List Marker} {params : List Json} {e : CqlError}
    (h : bindAll markers params = .error e) : e.kind = .configuration := by
  rw [bindAll] at h
  split at h
  · obtain ⟨⟨marker, param⟩, -, failed⟩ := exists_of_mapM_eq_error h
    simp only [bindParameter] at failed
    split at failed
    · cases failed
    · cases failed
      rfl
  · cases h
    rfl

theorem kind_of_decodeRowSet {rows : Option (Except String RowSet)} {e : CqlError}
    (h : decodeRowSet rows = .error e) : e.kind = .transport := by
  unfold decodeRowSet at h
  split at h
  · cases h
  · cases h
    rfl
  · split at h
    · cases h
      rfl
    · rcases bind_eq_error.1 h with failed | ⟨rows, -, h⟩
      · obtain ⟨row, -, failed⟩ := exists_of_mapM_eq_error failed
        split at failed
        · cases failed
        · cases failed
          rfl
      · cases h

theorem kind_of_connect {config : Config} {k : κ} {e : CqlError}
    (h : (connect C config k).1.outcome = .error e) : e.kind = .transport := by
  unfold connect at h
  split at h
  · cases h
  · cases h
    rfl

/-- A statement fails with a configuration error just when it was prepared and does not bind; then
nothing is run. -/
theorem execute_unbound {s : Session} {cql : String} {params : List Json} {k : κ} {e : CqlError}
    (h : (execute C s cql params k).1.outcome = .error e) (kind : e.kind = .configuration) :
    ∃ markers, (C.prepare s cql k).1 = .ok markers ∧ bindAll markers params = .error e ∧
      (execute C s cql params k).2 = (C.prepare s cql k).2 := by
  have other (same : e.kind = .transport) : False := by simp [same] at kind
  -- what fails in preparing, running and decoding is reported as the transport's failure
  unfold execute at h ⊢
  cases prepared : C.prepare s cql k with
  | mk outcome k' =>
    cases outcome with
    | error text =>
      simp only [prepared] at h
      cases h
      exact (other rfl).elim
    | ok markers =>
      simp only [prepared] at h ⊢
      cases bound : bindAll markers params with
      | error e' =>
        simp only [bound] at h ⊢
        cases h
        exact ⟨markers, rfl, bound, trivial⟩
      | ok cells =>
        simp only [bound] at h
        cases ran : C.run s cql cells k' with
        | mk outcome k'' =>
          cases outcome with
          | error text =>
            simp only [ran] at h
            cases h
            exact (other rfl).elim
          | ok result =>
            simp only [ran, decodeResult] at h
            split at h
            · rename_i e' failed
              cases h
              exact (other (kind_of_decodeRowSet failed)).elim
            · cases h
            · cases h

theorem unbound_of_blames {turn : Turn κ α} {e : CqlError} (h : turn.Blames (transport C) e)
    (kind : e.kind = .configuration) (answer : turn.answer = .error e.failure) : turn.Unbound C := by
  cases h with
  | connect asked failed =>
    have other : e.kind = .transport := kind_of_connect failed
    simp [other] at kind
  | execute asked failed left =>
    obtain ⟨markers, prepared, unbound, kept⟩ := execute_unbound failed kind
    exact .intro asked prepared unbound answer (left.trans kept)
  | shutdown asked failed => cases failed

end Native

theorem Turn.Unbound.refusedLate {C : Cluster κ} {turn : Turn κ α} (h : turn.Unbound C) :
    turn.RefusedLate := by
  obtain ⟨handed, prepared, unbound, answer, left⟩ := h
  exact ⟨⟨_, answer, Native.kind_of_bindAll unbound⟩, _, handed, trivial⟩

/-- A task is refused after input or output just when it is a change that is not rendered once the
catalog was asked, or when a native session does not bind the parameters of a prepared statement. -/
theorem Task.refusedLate_iff (task : Task) :
    (∀ {τ : Type} (T : Transport τ) (w : World τ), T.FailsInTransport →
      ((task.call.turn T w).RefusedLate ↔ task.FaultsLate T w)) ∧
    ∀ {κ : Type} (C : Cluster κ) (w : World κ),
      (task.call.turn (Native.transport C) w).RefusedLate ↔
        task.FaultsLate (Native.transport C) w ∨
          (task.call.turn (Native.transport C) w).Unbound C := by
  refine ⟨fun T w fails => ⟨fun late => ?_, fun faults => faults.refusedLate⟩,
    fun C w => ⟨fun late => ?_, fun reason => ?_⟩⟩
  · rcases task.sound with sound | faults
    · obtain ⟨e, kind, -, blames⟩ := late.blames sound
      rw [blames.kind_eq fails] at kind
      cases kind
    · exact faults
  · rcases task.sound with sound | faults
    · obtain ⟨e, kind, answer, blames⟩ := late.blames sound
      exact .inr (Native.unbound_of_blames blames kind answer)
    · exact .inl faults
  · rcases reason with faults | unbound
    · exact faults.refusedLate
    · exact unbound.refusedLate

/-- Answers every statement with the next rows of a list. -/
def Transport.replaying : Transport (List (List Row)) where
  connect _ rows := ({ outcome := .ok () }, rows)
  execute _ _ _ rows := ({ outcome := .ok { rows := some (rows.headD []) } }, rows.tail)
  shutdown _ rows := ({ outcome := .ok () }, rows)

theorem Transport.replaying_failsInTransport : replaying.FailsInTransport where
  connect failed := by cases failed
  execute failed := by cases failed
  shutdown failed := by cases failed

def Table.products : Table where
  connector := { config := .standard }
  keyspace := some "shop"
  name := "products"

/-- A table that is not there is changed to have a column of an unknown type. To create it with the
same fields is refused at once, and the change is refused once the catalog was asked. -/
theorem Table.unsupported_type_refusedLate :
    let fields := [Field.key "id" "Guid", { name := "outline", type := "Polygon" }]
    let w : World (List (List Row)) := { transport := [] }
    let e : CqlError := .configuration (.unsupportedType "Polygon")
    Transport.replaying.FailsInTransport ∧
      ((products.create fields).turn .replaying w).demands = [] ∧
      ((products.create fields).turn .replaying w).answer = .error e.failure ∧
      ((products.change fields).turn .replaying w).answer = .error e.failure ∧
      ((products.change fields).turn .replaying w).RefusedLate ∧
      ((products.change fields).turn .replaying w).statements =
        [(presenceQuery, [.str "shop", .str "products"])] := by
  intro fields w e
  obtain ⟨name, named⟩ : ∃ name, products.qualifiedName = .ok name := ⟨_, rfl⟩
  have absent : (products.isPresent.turn .replaying w).answer = .ok false := rfl
  have fault : products.creation fields = .error e := rfl
  have refused := ((Task.tableChange products fields).refusedLate_iff).1 .replaying w
    Transport.replaying_failsInTransport
  exact ⟨Transport.replaying_failsInTransport, rfl, rfl, rfl,
    refused.2 (.creation named absent fault), rfl⟩

end CqlClient
