import CqlClient.Proofs.Schema.Completion
import CqlClient.Proofs.Schema.Refusal
import Mathlib.Logic.Function.Iterate

/-!
# Repeated changes

A change that fails is made again. On a server that keeps a catalog and may fail anything, each
attempt advances the table towards the same columns, `Table.change_advances`, and the first that
succeeds has them all: `Table.changes_converge`.
-/

namespace CqlClient

variable {τ α : Type} {T : Transport τ} {view : τ → Catalog}

namespace Table

/-- What a turn does to a table: its statements add no column that is there, it goes on towards the
same columns and drops none, and it succeeds with all of them. It fails only when the transport does
or a name is refused. -/
structure Advances (T : Transport τ) (view : τ → Catalog) (t : Table) (keyspace : String)
    (fields : List Field) (s : τ) (turn : Turn τ Unit) : Prop where
  fresh : turn.Meets T view (fun cql c => ¬ c.Readds cql) s
  toward : completed fields ((view turn.next.transport).columns keyspace t.name) =
    completed fields ((view s).columns keyspace t.name)
  grows : ∀ present, (view s).columns keyspace t.name = some present →
    ∃ more, (view turn.next.transport).columns keyspace t.name = some (present ++ more)
  keyed : Keyed fields ((view turn.next.transport).columns keyspace t.name)
  reached : turn.answer = .ok () → (view turn.next.transport).columns keyspace t.name =
    some (completed fields ((view s).columns keyspace t.name))
  blames : turn.Justified T fun _ => t.Refuses keyspace fields

variable {t : Table} {keyspace : String} {fields : List Field}

namespace Advances

/-- A turn that fails and leaves the catalog as it is. -/
theorem of_error {s : τ} {turn : Turn τ Unit} {f : Failure} (failed : turn.answer = .error f)
    (keyed : Keyed fields ((view s).columns keyspace t.name))
    (kept : view turn.next.transport = view s)
    (fresh : turn.Meets T view (fun cql c => ¬ c.Readds cql) s)
    (blames : turn.Justified T fun _ => t.Refuses keyspace fields) :
    t.Advances T view keyspace fields s turn where
  fresh := fresh
  toward := by rw [kept]
  grows present found := ⟨[], by rw [kept, found, List.append_nil]⟩
  keyed := by
    rw [kept]
    exact keyed
  reached done := by
    rw [failed] at done
    cases done
  blames := blames

theorem refused (m : Machine τ) (e : CqlError)
    (keyed : Keyed fields ((view m.transport).columns keyspace t.name))
    (refuses : t.Refuses keyspace fields) :
    t.Advances T view keyspace fields m.transport (.settled (.error e) m) :=
  of_error rfl keyed rfl (.settled _ _) (.settled (fun _ _ => refuses) _)

/-- A turn that leaves the catalog as it is, and another one if the first succeeds. -/
theorem andThen {s : τ} {query : Turn τ α} {k : α → Machine τ → Turn τ Unit}
    (keyed : Keyed fields ((view s).columns keyspace t.name))
    (fresh : query.Meets T view (fun cql c => ¬ c.Readds cql) s)
    (kept : view query.next.transport = view s)
    (blames : query.Justified T fun _ => t.Refuses keyspace fields)
    (h : ∀ a, query.answer = .ok a →
      t.Advances T view keyspace fields query.next.transport (k a query.next)) :
    t.Advances T view keyspace fields s (query.andThen k) := by
  have whole := fresh.andThen fun a answer => (h a answer).fresh
  have justified := blames.andThen fun a answer => (h a answer).blames
  cases answer : query.answer with
  | error f =>
    have same := Turn.andThen_of_error (k := k) answer
    exact of_error (by rw [same]) keyed (by rw [same, kept]) whole justified
  | ok a =>
    obtain ⟨-, toward, grows, keyed', reached, -⟩ := h a answer
    rw [kept] at toward grows reached
    refine ⟨whole, ?_, ?_, ?_, ?_, justified⟩
    · rw [Turn.next_andThen_of_ok answer, toward]
    · rw [Turn.next_andThen_of_ok answer]
      exact grows
    · rw [Turn.next_andThen_of_ok answer]
      exact keyed'
    · rw [Turn.next_andThen_of_ok answer, Turn.answer_andThen_of_ok answer]
      exact reached

end Advances

/-! ## The steps of a change -/

theorem create_advances (serves : T.Serves view) (plain : t.Plain keyspace fields) (w : World τ)
    (absent : (view w.transport).columns keyspace t.name = none) :
    t.Advances T view keyspace fields w.transport ((t.create fields).turn T w) := by
  have keyed : Keyed fields ((view w.transport).columns keyspace t.name) := by
    intro present found
    rw [absent] at found
    cases found
  rcases plain.creation_yields with rendered | ⟨⟨e, fault⟩, refuses⟩
  · have fresh : ((t.create fields).turn T w).Meets T view (fun cql c => ¬ c.Readds cql)
        w.transport := by
      rw [turn_create, rendered]
      exact (w.machine.execute_sends.meets serves (plain.creation_not_readds _)).map _
    have blames : ((t.create fields).turn T w).Justified T fun _ => t.Refuses keyspace fields :=
      t.create_justified rendered
    rcases create_served serves rendered w with ⟨answer, next⟩ | ⟨⟨f, failed⟩, next⟩
    · have created := plain.columns_after_creation absent
      rw [← next] at created
      refine ⟨fresh, ?_, fun present found => ?_, fun present found f member _ => ?_, fun _ => ?_,
        blames⟩
      · rw [created, completed_own, absent]
      · rw [absent] at found
        cases found
      · rw [created] at found
        cases found
        rw [map_name_column]
        exact List.mem_map_of_mem member
      · rw [created, absent]
        rfl
    · exact .of_error failed keyed next fresh blames
  · rw [turn_create, fault]
    exact .refused w.machine e keyed refuses

theorem executeAll_advances (serves : T.Serves view) (plain : t.Plain keyspace fields)
    {todo : List Field} {present : List Column}
    (pending : ∀ f ∈ todo, Pending present fields f)
    (distinct : (todo.map Field.name).Nodup) (w : World τ)
    (found : (view w.transport).columns keyspace t.name = some present) :
    let turn := (executeAll t.connector (todo.map (additionText (t.nameIn keyspace)))).turn T w
    turn.Meets T view (fun cql c => ¬ c.Readds cql) w.transport ∧
      ∃ finished rest, todo = finished ++ rest ∧
        (view turn.next.transport).columns keyspace t.name =
          some (present ++ finished.map Field.column) ∧
        (turn.answer = .ok () → rest = []) := by
  -- by induction on the fields to be added; with each statement the catalog has one of them more
  induction todo generalizing w present with
  | nil =>
    have settled : (executeAll t.connector []).turn T w = .settled (.ok ()) w.machine := rfl
    rw [List.map_nil, settled]
    refine ⟨.settled (.ok ()) w.machine, [], [], rfl, ?_, fun _ => rfl⟩
    rw [List.map_nil, List.append_nil]
    exact found
  | cons f todo ih =>
    obtain ⟨first, others⟩ := List.forall_mem_cons.1 pending
    rw [List.map_cons, turn_executeAll_cons]
    generalize sent : w.machine.execute T t.connector
      (.text (additionText (t.nameIn keyspace) f)) [] = turn
    have sends : w.machine.Sends T t.connector _ [] turn := sent ▸ w.machine.execute_sends
    have fresh : turn.Meets T view (fun cql c => ¬ c.Readds cql) w.transport :=
      sends.meets serves (plain.addition_not_readds first found)
    rcases sends.served serves with ⟨s, state, response, -, -, answer, next⟩ | ⟨⟨e, failed⟩, next⟩
    · have added : (view turn.next.transport).columns keyspace t.name =
          some (present ++ [f.column]) := by
        rw [next]
        exact plain.columns_after_addition first found
      -- the other fields are missing in the longer table too, since their names differ from this one
      rw [List.map_cons, List.nodup_cons] at distinct
      have pending' (g : Field) (member : g ∈ todo) : Pending (present ++ [f.column]) fields g :=
        (others g member).append fun same => distinct.1 (same ▸ List.mem_map_of_mem member)
      obtain ⟨later, finished, rest, split, columns, all⟩ :=
        ih pending' distinct.2 turn.next.world added
      refine ⟨fresh.andThen fun rows _ => later, f :: finished, rest, ?_, ?_, ?_⟩
      · rw [split, List.cons_append]
      · rw [Turn.next_andThen_of_ok answer, columns, List.append_assoc]
        rfl
      · rw [Turn.answer_andThen_of_ok answer]
        exact all
    · refine ⟨fresh.andThen fun rows done => ?_, [], f :: todo, rfl, ?_, fun done => ?_⟩
      · rw [failed] at done
        cases done
      · rw [Turn.andThen_of_error failed, List.map_nil, List.append_nil, next]
        exact found
      · rw [Turn.andThen_of_error failed] at done
        cases done

theorem additions_advance (serves : T.Serves view) (plain : t.Plain keyspace fields) (w : World τ)
    {present : List Column} (found : (view w.transport).columns keyspace t.name = some present)
    (keyed : Keyed fields (some present)) :
    t.Advances T view keyspace fields w.transport ((executeAll t.connector
      ((missing present fields).map (additionText (t.nameIn keyspace)))).turn T w) := by
  have distinct : ((missing present fields).map Field.name).Nodup :=
    plain.distinct.sublist (List.filter_sublist.map _)
  obtain ⟨fresh, finished, rest, split, columns, all⟩ :=
    executeAll_advances serves plain (fun f => .of_missing keyed) distinct w found
  refine ⟨fresh, ?_, fun present' found' => ?_, fun present' found' f inside primary => ?_,
    fun done => ?_, executeAll_justified _ _ _⟩
  · rw [columns, found, completed_append plain.distinct split]
  · rw [found] at found'
    cases found'
    exact ⟨_, columns⟩
  · rw [columns] at found'
    cases found'
    rw [List.map_append, List.mem_append]
    exact .inl (keyed present rfl f inside primary)
  · rw [all done, List.append_nil] at split
    rw [columns, found, completed, split]

theorem extend_advances (serves : T.Serves view) (plain : t.Plain keyspace fields) (w : World τ)
    {present : List Column} (found : (view w.transport).columns keyspace t.name = some present)
    (keyed : Keyed fields (some present)) :
    t.Advances T view keyspace fields w.transport
      ((t.extend (t.nameIn keyspace) fields).turn T w) := by
  obtain ⟨kept, listed⟩ := t.columns_served serves plain.keyspace_eq w
  have fresh : (t.columns.turn T w).Meets T view (fun cql c => ¬ c.Readds cql) w.transport := by
    rw [turn_columns, requiredKeyspace_eq_ok_iff.2 plain.keyspace_eq]
    exact (w.machine.execute_sends.meets serves
      (Catalog.query_not_readds SchemaStatement.read_columnsQuery _)).andThen fun rows _ =>
        .settled _ _
  rw [turn_extend]
  refine .andThen (found ▸ keyed) fresh kept (t.columns_justified_of_serves serves plain.keyspace_eq w)
    fun columns answer => ?_
  have there : (view (t.columns.turn T w).next.transport).columns keyspace t.name = some present := by
    rw [kept, found]
  obtain rfl : columns = present := by rw [listed columns answer, found, Option.getD_some]
  rcases plain.additions_yields keyed with rendered | ⟨⟨e, fault⟩, refuses⟩
  · rw [rendered]
    exact additions_advance serves plain (t.columns.turn T w).next.world there keyed
  · rw [fault]
    exact .refused _ e (there ▸ keyed) refuses

theorem change_advances (serves : T.Serves view) (plain : t.Plain keyspace fields) (w : World τ)
    (keyed : Keyed fields ((view w.transport).columns keyspace t.name)) :
    t.Advances T view keyspace fields w.transport ((t.change fields).turn T w) := by
  have required := requiredKeyspace_eq_ok_iff.2 plain.keyspace_eq
  obtain ⟨kept, tells⟩ := t.isPresent_served serves plain.keyspace_eq w
  have fresh : (t.isPresent.turn T w).Meets T view (fun cql c => ¬ c.Readds cql) w.transport := by
    rw [turn_isPresent, required]
    exact (w.machine.execute_sends.meets serves
      (Catalog.query_not_readds SchemaStatement.read_presenceQuery _)).map _
  rcases plain.qualifiedName_yields with named | ⟨⟨e, fault⟩, refuses⟩
  · rw [turn_change, named]
    refine .andThen keyed fresh kept (t.isPresent_justified required) fun present answer => ?_
    have world : view (t.isPresent.turn T w).next.world.transport = view w.transport := kept
    cases present with
    | false =>
      have absent : (view w.transport).columns keyspace t.name = none := by
        simpa using tells false answer
      exact create_advances serves plain _ (world ▸ absent)
    | true =>
      obtain ⟨columns, found⟩ := Option.isSome_iff_exists.1 ((tells true answer).1 rfl)
      rw [found] at keyed
      exact extend_advances serves plain _ (world ▸ found) keyed
  · rw [turn_change, fault]
    exact .refused w.machine e keyed refuses

theorem Advances.complete {s : τ} {turn : Turn τ Unit}
    (h : t.Advances T view keyspace fields s turn) {columns : List Column}
    (found : (view s).columns keyspace t.name = some columns)
    (complete : missing columns fields = []) :
    (view turn.next.transport).columns keyspace t.name = some columns := by
  obtain ⟨more, grown⟩ := h.grows columns found
  have toward := h.toward
  simp only [grown, found, completed, complete, List.map_nil, List.append_nil, List.append_assoc]
    at toward
  have none : more = [] := (List.append_eq_nil_iff.1 (List.append_right_eq_self.1 toward)).1
  rw [grown, none, List.append_nil]

theorem statements_isPresent (has : t.keyspace = some keyspace) {w : World τ} {b : Bool}
    (answer : (t.isPresent.turn T w).answer = .ok b) :
    (t.isPresent.turn T w).statements = [(presenceQuery, [.str keyspace, .str t.name])] := by
  rw [turn_isPresent, requiredKeyspace_eq_ok_iff.2 has] at answer ⊢
  obtain ⟨rows, answered, -⟩ := Turn.map_answer_eq_ok answer
  exact w.machine.execute_sends.statements_of_ok answered

theorem statements_columns (has : t.keyspace = some keyspace) {w : World τ} {columns : List Column}
    (answer : (t.columns.turn T w).answer = .ok columns) :
    (t.columns.turn T w).statements = [(columnsQuery, [.str t.name, .str keyspace])] := by
  rw [turn_columns, requiredKeyspace_eq_ok_iff.2 has] at answer ⊢
  simp only [Turn.statements_andThen_settled] at answer ⊢
  cases answered : (w.machine.execute T t.connector (.text columnsQuery)
      [.str t.name, .str keyspace]).answer with
  | error f => simp [Turn.andThen_of_error answered] at answer
  | ok rows => exact w.machine.execute_sends.statements_of_ok answered

theorem change_of_complete (serves : T.Serves view) (plain : t.Plain keyspace fields) (w : World τ)
    {columns : List Column} (found : (view w.transport).columns keyspace t.name = some columns)
    (complete : missing columns fields = [])
    (done : ((t.change fields).turn T w).answer = .ok ()) :
    ((t.change fields).turn T w).statements =
      [(presenceQuery, [.str keyspace, .str t.name]), (columnsQuery, [.str t.name, .str keyspace])] := by
  obtain ⟨kept, tells⟩ := t.isPresent_served serves plain.keyspace_eq w
  have named : t.qualifiedName = .ok (t.nameIn keyspace) := by
    refine plain.qualifiedName_yields.resolve_right fun refused => ?_
    obtain ⟨⟨e, fault⟩, -⟩ := refused
    rw [turn_change, fault] at done
    cases done
  rw [turn_change, named] at done ⊢
  cases present : (t.isPresent.turn T w).answer with
  | error f => simp [Turn.andThen_of_error present] at done
  | ok b =>
    obtain rfl : b = true := (tells b present).2 (by rw [found]; rfl)
    simp only [Turn.answer_andThen_of_ok present, if_true, turn_extend] at done
    have listed := (t.columns_served serves plain.keyspace_eq (t.isPresent.turn T w).next.world).2
    have world : view (t.isPresent.turn T w).next.world.transport = view w.transport := kept
    rw [world, found] at listed
    cases asked : (t.columns.turn T (t.isPresent.turn T w).next.world).answer with
    | error f => simp [Turn.andThen_of_error asked] at done
    | ok columns' =>
      obtain rfl : columns' = columns := listed columns' asked
      have nothing : t.additions (t.nameIn keyspace) columns' fields = .ok [] :=
        additions_of_complete complete
      simp only [Turn.statements_andThen_of_ok present, if_true, turn_extend,
        Turn.statements_andThen_of_ok asked, nothing]
      rw [statements_isPresent plain.keyspace_eq present, statements_columns plain.keyspace_eq asked]
      rfl

/-! ## Repeated changes -/

def changed (T : Transport τ) (t : Table) (fields : List Field) (w : World τ) : World τ :=
  ((t.change fields).turn T w).next.world

section Repeated

variable (serves : T.Serves view) (plain : t.Plain keyspace fields) (w : World τ)
  (keyed : Keyed fields ((view w.transport).columns keyspace t.name))

include serves plain keyed

theorem toward_of_changes (n : ℕ) :
    completed fields ((view ((t.changed T fields)^[n] w).transport).columns keyspace t.name) =
        completed fields ((view w.transport).columns keyspace t.name) ∧
      Keyed fields ((view ((t.changed T fields)^[n] w).transport).columns keyspace t.name) := by
  induction n with
  | zero => exact ⟨rfl, keyed⟩
  | succ n ih =>
    have step := change_advances serves plain ((t.changed T fields)^[n] w) ih.2
    rw [Function.iterate_succ_apply']
    exact ⟨step.toward.trans ih.1, step.keyed⟩

theorem complete_of_changes {i : ℕ}
    (done : ((t.change fields).turn T ((t.changed T fields)^[i] w)).answer = .ok ()) {j : ℕ}
    (later : i < j) :
    (view ((t.changed T fields)^[j] w).transport).columns keyspace t.name =
      some (completed fields ((view w.transport).columns keyspace t.name)) := by
  induction j, later using Nat.le_induction with
  | base =>
    obtain ⟨toward, keyed'⟩ := toward_of_changes serves plain w keyed i
    have step := change_advances serves plain ((t.changed T fields)^[i] w) keyed'
    rw [Function.iterate_succ_apply', ← toward]
    exact step.reached done
  | succ j later ih =>
    have keyed' := (toward_of_changes serves plain w keyed j).2
    have step := change_advances serves plain ((t.changed T fields)^[j] w) keyed'
    rw [Function.iterate_succ_apply']
    exact step.complete ih (missing_completed plain.distinct _)

/-- Changes are made again and again, on a server that may fail any of their handshakes and
statements. No statement adds a column that is there; a change fails only when the transport does or
a validator of one's own refuses a name; once one has succeeded the table is complete, and a change
that succeeds later only asks the catalog. -/
theorem changes_converge :
    let world (i : ℕ) := (t.changed T fields)^[i] w
    let turn (i : ℕ) := (t.change fields).turn T (world i)
    (∀ i, ∀ x ∈ T.handed (world i).transport (turn i).demands, ¬ (view x.2).Readds x.1) ∧
      (∀ i f, (turn i).answer = .error f →
        (∃ e : CqlError, f = e.failure ∧ (turn i).Blames T e) ∨
          t.connector.formatter.validator ≠ .standard ∧ t.Refuses keyspace fields) ∧
      ∀ i, (turn i).answer = .ok () → ∀ j, i < j →
        (view (world j).transport).columns keyspace t.name =
            some (completed fields ((view w.transport).columns keyspace t.name)) ∧
          ((turn j).answer = .ok () → (turn j).statements =
            [(presenceQuery, [.str keyspace, .str t.name]),
              (columnsQuery, [.str t.name, .str keyspace])]) := by
  have step (i : ℕ) := change_advances serves plain ((t.changed T fields)^[i] w)
    (toward_of_changes serves plain w keyed i).2
  refine ⟨fun i => (step i).fresh.each, fun i f failed => ?_, fun i done j later => ?_⟩
  · exact ((step i).blames f failed).imp_right fun refuses =>
      ⟨plain.validator_ne_of_refuses refuses, refuses⟩
  · have complete := complete_of_changes serves plain w keyed done later
    exact ⟨complete, change_of_complete serves plain _ complete (missing_completed plain.distinct _)⟩

end Repeated

def priced : List Field :=
  [Field.key "id" "Guid", { name := "price", type := "Decimal" }, { name := "stock", type := "Integer" }]

/-- The table has none of the columns but its key, and the second addition is to fail. -/
def unpriced : World Server where
  transport := {
    catalog := ({} : Catalog).putTable "shop" "products" [⟨"id", "uuid", true⟩]
    failures := [false, false, false, false, true] }

theorem change_resumed :
    Server.transport.Serves Server.catalog ∧ products.Plain "shop" priced ∧
      Keyed priced (unpriced.transport.catalog.columns "shop" products.name) ∧
      ((products.change priced).turn Server.transport unpriced).answer.toBool = false ∧
      ((products.change priced).turn Server.transport
        ((products.changed Server.transport priced)^[1] unpriced)).answer = .ok () ∧
      (((products.changed Server.transport priced)^[2]) unpriced).transport.catalog.columns
        "shop" products.name =
          some [⟨"id", "uuid", true⟩, ⟨"price", "DECIMAL", false⟩, ⟨"stock", "INT", false⟩] := by
  have plain : products.Plain "shop" priced := {
    quotes := rfl
    keyspace_eq := rfl
    keyspace := by decide
    name := by decide
    some_field := by decide
    identifiers := by decide
    supported := by decide
    distinct := by decide }
  have keyed : Keyed priced (unpriced.transport.catalog.columns "shop" "products") := by
    intro present found
    obtain rfl : [⟨"id", "uuid", true⟩] = present := Option.some.inj found
    decide
  have failed : ((products.change priced).turn Server.transport unpriced).answer.toBool = false := by
    decide +kernel
  have done : ((products.change priced).turn Server.transport
      ((products.changed Server.transport priced)^[1] unpriced)).answer.toBool := by
    decide +kernel
  have ok_of_toBool {r : Except Failure Unit} (h : r.toBool) : r = .ok () := by
    cases r with
    | ok u => rfl
    | error f => cases h
  have goal : completed priced (unpriced.transport.catalog.columns "shop" products.name) =
      [⟨"id", "uuid", true⟩, ⟨"price", "DECIMAL", false⟩, ⟨"stock", "INT", false⟩] := by
    decide +kernel
  have converge := changes_converge Server.transport_serves plain unpriced keyed
  -- what it says has to be met as it is written: by evaluation the changes would be run again
  dsimp only at converge
  have complete := (converge.2.2 1 (ok_of_toBool done) 2 (by decide)).1
  rw [goal] at complete
  exact ⟨Server.transport_serves, plain, keyed, failed, ok_of_toBool done, complete⟩

end Table

end CqlClient
