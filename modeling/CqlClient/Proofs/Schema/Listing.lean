import CqlClient.Proofs.Json.Members
import CqlClient.Proofs.Schema.Refusal

/-!
# Which columns the catalog lists

A row of the catalog stands for at most one column: `Column.Lists` says for which, `Column.RowFault`
why for none. Main statement:

* `Table.columns_listed`: the rows that the catalog answers with are listed as one column each, in
  their order; or the first one that stands for none is a JSON error. The session stays open.
-/

namespace CqlClient

open Json (ShapeError)

/-! ## Kinds -/

namespace ColumnKind

variable {kind : ColumnKind} {s : String} {v : Json}

/-- The JSON forms of a kind. -/
inductive IsForm (kind : ColumnKind) : Json → Prop
  | name : IsForm kind (.str kind.text)
  | alone : IsForm kind (.obj [(kind.text, .null)])

theorem ofText?_eq_some_iff : ofText? s = some kind ↔ s = kind.text := by
  constructor
  · intro found
    rw [ofText?] at found
    simpa [eq_comm] using List.find?_some found
  · rintro rfl
    cases kind <;> decide

theorem ofName_eq_ok_iff : ofName s = .ok kind ↔ s = kind.text := by
  rw [← ofText?_eq_some_iff, ofName]
  cases ofText? s <;> simp

theorem ofJson_eq_ok_iff : ofJson v = .ok kind ↔ kind.IsForm v := by
  constructor
  · intro read
    unfold ofJson at read
    split at read
    · obtain rfl := ofName_eq_ok_iff.1 read
      exact .name
    · obtain ⟨kind', named, read⟩ := bind_eq_ok.1 read
      split at read
      · cases read
        obtain rfl := ofName_eq_ok_iff.1 named
        exact .alone
      · cases read
    · cases read
    · cases read
  · rintro (_ | _)
    · exact ofName_eq_ok_iff.2 rfl
    · rw [ofJson, ofName_eq_ok_iff.2 rfl]
      rfl

end ColumnKind

/-! ## Rows -/

namespace Column

variable {row : Members} {read read' : CatalogRow} {c : Column} {m : String × Json} {e : ShapeError}
  {v : Json} {s : String}

/-- A row gives no kind, also by null, or a form of one. -/
inductive GivesKind : Option Json → Option ColumnKind → Prop
  | absent : GivesKind none none
  | null : GivesKind (some .null) none
  | form {kind : ColumnKind} {v : Json} (form : kind.IsForm v) : GivesKind (some v) (some kind)

/-- The row stands for the column. -/
structure Lists (row : Members) (c : Column) : Prop where
  name : row.find? "name" = some (.str c.name)
  type : row.find? "type" = some (.str c.type)
  kind : ∃ kind, GivesKind (row.find? "kind") kind ∧
    (c.primary = true ↔ kind = some .partitionKey)

/-- Why a member of a row is not what its name asks for. -/
inductive MemberFault : String × Json → ShapeError → Prop
  | name {v : Json} (noText : ∀ s, v ≠ .str s) :
      MemberFault ("name", v) (.invalidType v.found "a string")
  | type {v : Json} (noText : ∀ s, v ≠ .str s) :
      MemberFault ("type", v) (.invalidType v.found "a string")
  | kind {v : Json} {e : ShapeError} (given : v ≠ .null) (noForm : ColumnKind.ofJson v = .error e) :
      MemberFault ("kind", v) e

/-- Why a row stands for no column: its first faulty member, or what it lacks. -/
inductive RowFault (row : Members) : ShapeError → Prop
  | misread {before after : Members} {m : String × Json} {e : ShapeError}
      (split : row = before ++ m :: after) (earlier : ∀ m ∈ before, ∀ e, ¬ MemberFault m e)
      (here : MemberFault m e) : RowFault row e
  | unnamed (sound : ∀ m ∈ row, ∀ e, ¬ MemberFault m e) (noName : row.find? "name" = none) :
      RowFault row (.missingField "name")
  | untyped {v : Json} (sound : ∀ m ∈ row, ∀ e, ¬ MemberFault m e)
      (named : row.find? "name" = some v) (noType : row.find? "type" = none) :
      RowFault row (.missingField "type")

theorem textOf_eq_ok_iff : textOf v = .ok s ↔ v = .str s := by
  cases v <;> simp [textOf, eq_comm]

theorem textOf_eq_error_iff :
    textOf v = .error e ↔ (∀ s, v ≠ .str s) ∧ e = .invalidType v.found "a string" := by
  cases v <;> simp [textOf, eq_comm]

theorem kindOf_of_ne_null (given : v ≠ .null) :
    kindOf v = ColumnKind.ofJson v >>= fun kind => .ok (some kind) := by
  rw [kindOf]
  exact given

theorem kindOf_eq_error_iff : kindOf v = .error e ↔ v ≠ .null ∧ ColumnKind.ofJson v = .error e := by
  by_cases null : v = .null
  · simp [null, kindOf]
  · simp [null, kindOf_of_ne_null, bind_eq_error]

theorem kindOf_eq_ok_iff {kind : Option ColumnKind} :
    kindOf v = .ok kind ↔ GivesKind (some v) kind := by
  constructor
  · intro read
    by_cases null : v = .null
    · subst null
      cases read
      exact .null
    · rw [kindOf_of_ne_null null] at read
      obtain ⟨kind, form, same⟩ := bind_eq_ok.1 read
      cases same
      exact .form (ColumnKind.ofJson_eq_ok_iff.1 form)
  · intro gives
    cases gives with
    | null => rfl
    | form form =>
      have given : v ≠ .null := by
        rintro rfl
        cases form
      rw [kindOf_of_ne_null given, ColumnKind.ofJson_eq_ok_iff.2 form]
      rfl

/-- What reading a member makes of what was read so far. -/
def Reads {α : Type} (decode : Json → Except ShapeError (Option α)) (before after : Option α) :
    Option Json → Prop
  | none => after = before
  | some v => decode v = .ok after

def textMember (v : Json) : Except ShapeError (Option String) := do
  .ok (some (← textOf v))

theorem readMembers_name (row : Members) : readMembers read (("name", v) :: row) =
    textOf v >>= fun s => readMembers { read with name := some s } row := rfl

theorem readMembers_type (row : Members) : readMembers read (("type", v) :: row) =
    textOf v >>= fun s => readMembers { read with type := some s } row := rfl

theorem readMembers_kind (row : Members) : readMembers read (("kind", v) :: row) =
    kindOf v >>= fun s => readMembers { read with kind := s } row := rfl

theorem readMembers_other (row : Members) {key : String} (other : key ∉ ["name", "type", "kind"]) :
    readMembers read ((key, v) :: row) = readMembers read row := by
  simp only [List.mem_cons, not_or] at other
  rw [readMembers]
  · exact other.1
  · exact other.2.1
  · exact other.2.2.1

section Reads

variable {α : Type} {decode : Json → Except ShapeError (Option α)} {before after : Option α}

theorem reads_none_iff : Reads decode before after none ↔ after = before := Iff.rfl

theorem reads_some_iff : Reads decode before after (some v) ↔ decode v = .ok after := Iff.rfl

end Reads

theorem reads_text_iff {before after : Option String} :
    Reads textMember before after (some v) ↔ ∃ s, textOf v = .ok s ∧ after = some s := by
  simp only [Reads, textMember, bind_eq_ok, Except.ok.injEq, eq_comm (a := after)]

theorem readMembers_eq_ok_iff (different : (row.map Prod.fst).Nodup) :
    readMembers read row = .ok read' ↔ Reads textMember read.name read'.name (row.find? "name") ∧
      Reads textMember read.type read'.type (row.find? "type") ∧
      Reads kindOf read.kind read'.kind (row.find? "kind") := by
  induction row generalizing read with
  | nil =>
    obtain ⟨name, type, kind⟩ := read
    obtain ⟨name', type', kind'⟩ := read'
    simp only [readMembers, Except.ok.injEq, CatalogRow.mk.injEq, Members.find?_nil, Reads, eq_comm]
  | cons m row ih =>
    obtain ⟨key, value⟩ := m
    obtain ⟨apart, rest⟩ := List.nodup_cons.1 different
    -- no later member has this name, so what is read here stays
    have absent := Members.find?_eq_none apart
    by_cases asked : key ∈ ["name", "type", "kind"]
    · simp only [List.mem_cons, List.not_mem_nil, or_false] at asked
      obtain rfl | rfl | rfl := asked
      · simp only [readMembers_name, bind_eq_ok, ih rest, Members.find?_cons, String.reduceEq,
          ↓reduceIte, absent, reads_none_iff, reads_text_iff]
        grind
      · simp only [readMembers_type, bind_eq_ok, ih rest, Members.find?_cons, String.reduceEq,
          ↓reduceIte, absent, reads_none_iff, reads_text_iff]
        grind
      · simp only [readMembers_kind, bind_eq_ok, ih rest, Members.find?_cons, String.reduceEq,
          ↓reduceIte, absent, reads_none_iff, reads_some_iff]
        grind
    · rw [readMembers_other row asked, ih rest]
      simp only [List.mem_cons, not_or] at asked
      simp [asked]

theorem reads_text_from_none_iff {member : Option Json} :
    Reads textMember none (some s) member ↔ member = some (.str s) := by
  cases member with
  | none => simp [Reads]
  | some v => simp [reads_text_iff, textOf_eq_ok_iff]

theorem reads_kind_from_none_iff {member : Option Json} {kind : Option ColumnKind} :
    Reads kindOf none kind member ↔ GivesKind member kind := by
  cases member with
  | none =>
    constructor
    · rintro rfl
      exact .absent
    · rintro ⟨⟩
      rfl
  | some v => exact kindOf_eq_ok_iff

theorem ofRow_eq_ok_iff (different : (row.map Prod.fst).Nodup) :
    ofRow row = .ok c ↔ Lists row c := by
  rw [ofRow, bind_eq_ok]
  constructor
  · rintro ⟨⟨name, type, kind⟩, read, named⟩
    obtain ⟨readName, readType, readKind⟩ := (readMembers_eq_ok_iff different).1 read
    split at named
    · cases named
    · cases named
    · rename_i name type hasName hasType
      cases hasName
      cases hasType
      cases named
      exact ⟨reads_text_from_none_iff.1 readName, reads_text_from_none_iff.1 readType, kind,
        reads_kind_from_none_iff.1 readKind, decide_eq_true_iff⟩
  · rintro ⟨name, type, kind, gives, primary⟩
    have read : readMembers {} row = .ok ⟨some c.name, some c.type, kind⟩ :=
      (readMembers_eq_ok_iff different).2 ⟨reads_text_from_none_iff.2 name,
        reads_text_from_none_iff.2 type, reads_kind_from_none_iff.2 gives⟩
    refine ⟨_, read, ?_⟩
    have same : decide (kind = some .partitionKey) = c.primary := by
      rw [Bool.eq_iff_iff, decide_eq_true_iff, primary]
    simp only [ofKind, same]

theorem readMembers_of_memberFault (fault : MemberFault m e) :
    readMembers read (m :: row) = .error e := by
  cases fault with
  | name noText =>
    rw [readMembers_name, textOf_eq_error_iff.2 ⟨noText, rfl⟩]
    rfl
  | type noText =>
    rw [readMembers_type, textOf_eq_error_iff.2 ⟨noText, rfl⟩]
    rfl
  | kind given noForm =>
    rw [readMembers_kind, kindOf_eq_error_iff.2 ⟨given, noForm⟩]
    rfl

theorem readMembers_of_no_memberFault (sound : ∀ e, ¬ MemberFault m e) (read : CatalogRow) :
    ∃ read', readMembers read (m :: row) = readMembers read' row := by
  obtain ⟨key, value⟩ := m
  by_cases asked : key ∈ ["name", "type", "kind"]
  · simp only [List.mem_cons, List.not_mem_nil, or_false] at asked
    obtain rfl | rfl | rfl := asked
    · rw [readMembers_name]
      cases text : textOf value with
      | ok s => exact ⟨_, rfl⟩
      | error e =>
        obtain ⟨noText, rfl⟩ := textOf_eq_error_iff.1 text
        exact absurd (.name noText) (sound _)
    · rw [readMembers_type]
      cases text : textOf value with
      | ok s => exact ⟨_, rfl⟩
      | error e =>
        obtain ⟨noText, rfl⟩ := textOf_eq_error_iff.1 text
        exact absurd (.type noText) (sound _)
    · rw [readMembers_kind]
      cases kind : kindOf value with
      | ok kind => exact ⟨_, rfl⟩
      | error e =>
        obtain ⟨given, noForm⟩ := kindOf_eq_error_iff.1 kind
        exact absurd (.kind given noForm) (sound _)
  · exact ⟨read, readMembers_other row asked⟩

theorem readMembers_eq_error_iff : readMembers read row = .error e ↔
    ∃ before m after, row = before ++ m :: after ∧ (∀ m ∈ before, ∀ e, ¬ MemberFault m e) ∧
      MemberFault m e := by
  constructor
  · intro failed
    induction row generalizing read with
    | nil => cases failed
    | cons m row ih =>
      by_cases fault : ∃ e, MemberFault m e
      · obtain ⟨e', fault⟩ := fault
        cases (readMembers_of_memberFault fault).symm.trans failed
        exact ⟨[], m, row, rfl, nofun, fault⟩
      · have sound := not_exists.1 fault
        obtain ⟨read', rest⟩ := readMembers_of_no_memberFault sound read
        obtain ⟨before, m', after, rfl, earlier, fault⟩ := ih (rest ▸ failed)
        exact ⟨m :: before, m', after, rfl, List.forall_mem_cons.2 ⟨sound, earlier⟩, fault⟩
  · rintro ⟨before, m, after, rfl, earlier, fault⟩
    -- whatever was read before the faulty member is lost
    induction before generalizing read with
    | nil => exact readMembers_of_memberFault fault
    | cons m' before ih =>
      obtain ⟨sound, earlier⟩ := List.forall_mem_cons.1 earlier
      obtain ⟨read', rest⟩ := readMembers_of_no_memberFault sound read
      exact rest.trans (ih earlier)

theorem exists_readMembers_iff :
    (∃ read', readMembers read row = .ok read') ↔ ∀ m ∈ row, ∀ e, ¬ MemberFault m e := by
  induction row generalizing read with
  | nil => simp [readMembers]
  | cons m row ih =>
    rw [List.forall_mem_cons]
    by_cases fault : ∃ e, MemberFault m e
    · obtain ⟨e, fault⟩ := fault
      rw [readMembers_of_memberFault fault]
      exact ⟨nofun, fun sound => absurd fault (sound.1 e)⟩
    · have sound := not_exists.1 fault
      obtain ⟨read', rest⟩ := readMembers_of_no_memberFault sound read
      rw [rest, ih, and_iff_right sound]

theorem reads_text_none_iff {member : Option Json} :
    Reads textMember none none member ↔ member = none := by
  cases member with
  | none => simp [Reads]
  | some v => simp [reads_text_iff]

theorem ofRow_eq_error_iff (different : (row.map Prod.fst).Nodup) :
    ofRow row = .error e ↔ RowFault row e := by
  rw [ofRow, bind_eq_error]
  constructor
  · rintro (failed | ⟨⟨name, type, kind⟩, read, lacks⟩)
    · obtain ⟨before, m, after, split, earlier, here⟩ := readMembers_eq_error_iff.1 failed
      exact .misread split earlier here
    · have sound := exists_readMembers_iff.1 ⟨_, read⟩
      obtain ⟨readName, readType, -⟩ := (readMembers_eq_ok_iff different).1 read
      cases name with
      | none =>
        cases lacks
        exact .unnamed sound (reads_text_none_iff.1 readName)
      | some name =>
        cases type with
        | none =>
          cases lacks
          exact .untyped sound (reads_text_from_none_iff.1 readName) (reads_text_none_iff.1 readType)
        | some type => cases lacks
  · intro fault
    cases fault with
    | misread split earlier here =>
      exact .inl (readMembers_eq_error_iff.2 ⟨_, _, _, split, earlier, here⟩)
    | unnamed sound noName =>
      obtain ⟨⟨name, type, kind⟩, read⟩ := exists_readMembers_iff.2 sound
      obtain ⟨readName, -, -⟩ := (readMembers_eq_ok_iff different).1 read
      rw [noName] at readName
      cases readName
      exact .inr ⟨_, read, rfl⟩
    | untyped sound named noType =>
      obtain ⟨⟨name, type, kind⟩, read⟩ := exists_readMembers_iff.2 sound
      obtain ⟨readName, readType, -⟩ := (readMembers_eq_ok_iff different).1 read
      rw [named, reads_text_iff] at readName
      rw [noType] at readType
      obtain ⟨s, -, given⟩ := readName
      cases given
      cases readType
      exact .inr ⟨_, read, rfl⟩

theorem not_lists_of_rowFault (different : (row.map Prod.fst).Nodup) (fault : RowFault row e) :
    ¬ Lists row c := by
  rw [← ofRow_eq_ok_iff different, (ofRow_eq_error_iff different).2 fault]
  exact nofun

end Column

/-! ## Listing -/

section Reaches

variable {τ : Type} {T : Transport τ} {c : Connector} {m : Machine τ} {before : List Demand}
  {s : Session} {n : Nat} {t : τ}

theorem Machine.Reaches.acquire_eq (reached : m.Reaches T c before s n t) :
    m.acquire T c = ⟨.ok s, before, ⟨.opened s, n, t⟩⟩ := by
  cases reached with
  | held held =>
    obtain ⟨state, established, transport⟩ := m
    cases held
    rfl
  | connected closed came => simp only [acquire, closed, came, Turn.after, List.append_nil]

theorem Machine.Reaches.execute_of_answer {cql : String} {params : List Json} {response : Response}
    (reached : m.Reaches T c before s n t)
    (came : (T.execute s cql params t).1.outcome = .ok response) :
    m.execute T c (.text cql) params = ⟨.ok (response.rows.getD []),
      before ++ [.execute s cql params], ⟨.opened s, n, (T.execute s cql params t).2⟩⟩ := by
  simp only [execute, reached.acquire_eq, Turn.andThen, submit, came, Turn.after, List.append_nil]

end Reaches

namespace Table

variable {rows : List Row} {columns : List Column} {e : CqlError}

theorem readColumns_eq_ok_iff (maps : ∀ row ∈ rows, (row.map Prod.fst).Nodup) :
    readColumns rows = .ok columns ↔ List.Forall₂ Column.Lists rows columns := by
  have read : readColumns rows = .ok columns ↔
      List.Forall₂ (fun row c => Column.ofRow row = .ok c) rows columns := by
    rw [readColumns, ← mapM_eq_ok]
    cases rows.mapM Column.ofRow <;> simp
  rw [read]
  constructor
  · intro each
    exact (forall₂_of_mem (S := fun c row => Column.Lists row c)
      (fun row among _ => (Column.ofRow_eq_ok_iff (maps row among)).1) each).flip
  · intro each
    exact (forall₂_of_mem (S := fun c row => Column.ofRow row = .ok c)
      (fun row among _ => (Column.ofRow_eq_ok_iff (maps row among)).2) each).flip

theorem readColumns_eq_error_iff (maps : ∀ row ∈ rows, (row.map Prod.fst).Nodup) :
    readColumns rows = .error e ↔ ∃ earlier row later fault, rows = earlier ++ row :: later ∧
      (∀ row ∈ earlier, ∃ c, Column.Lists row c) ∧ Column.RowFault row fault ∧
      e = .json (.shape fault) := by
  have read : readColumns rows = .error e ↔
      ∃ fault, rows.mapM Column.ofRow = .error fault ∧ e = .json (.shape fault) := by
    rw [readColumns]
    cases rows.mapM Column.ofRow <;> simp [eq_comm]
  rw [read]
  constructor
  · rintro ⟨fault, failed, rfl⟩
    obtain ⟨earlier, row, later, rfl, listed, here⟩ := mapM_eq_error.1 failed
    obtain ⟨mapsEarlier, maps⟩ := List.forall_mem_append.1 maps
    refine ⟨earlier, row, later, fault, rfl, fun row among => ?_, ?_, rfl⟩
    · obtain ⟨c, read⟩ := listed row among
      exact ⟨c, (Column.ofRow_eq_ok_iff (mapsEarlier row among)).1 read⟩
    · exact (Column.ofRow_eq_error_iff (maps row List.mem_cons_self)).1 here
  · rintro ⟨earlier, row, later, fault, rfl, listed, here, rfl⟩
    obtain ⟨mapsEarlier, maps⟩ := List.forall_mem_append.1 maps
    refine ⟨fault, mapM_eq_error.2 ⟨earlier, row, later, rfl, fun row among => ?_, ?_⟩, rfl⟩
    · obtain ⟨c, lists⟩ := listed row among
      exact ⟨c, (Column.ofRow_eq_ok_iff (mapsEarlier row among)).2 lists⟩
    · exact (Column.ofRow_eq_error_iff (maps row List.mem_cons_self)).2 here

variable {τ : Type} {T : Transport τ} {w : World τ} {t : Table}

theorem turn_columns_of_answer {keyspace : String} (required : t.keyspace = some keyspace)
    {before : List Demand} {s : Session} {n : Nat} {state : τ}
    (reached : w.machine.Reaches T t.connector before s n state) {response : Response}
    (came : (T.execute s columnsQuery [.str t.name, .str keyspace] state).1.outcome =
      .ok response) :
    t.columns.turn T w = ⟨(readColumns (response.rows.getD [])).mapError CqlError.failure,
      before ++ [.execute s columnsQuery [.str t.name, .str keyspace]],
      ⟨.opened s, n, (T.execute s columnsQuery [.str t.name, .str keyspace] state).2⟩⟩ := by
  have given : t.requiredKeyspace = .ok keyspace := by rw [requiredKeyspace, required]
  rw [turn_columns, given]
  dsimp only
  rw [reached.execute_of_answer came, Turn.andThen_of_ok rfl]
  simp [Turn.settled, Turn.after]

/-- The catalog answers with rows. They are listed when each of them stands for a column, one column
for a row, in their order. Otherwise the first row that stands for none is a JSON error. Either way
the catalog was asked once, and the session that was asked is open. -/
theorem columns_listed {keyspace : String} (required : t.keyspace = some keyspace)
    {before : List Demand} {s : Session} {n : Nat} {state : τ}
    (reached : w.machine.Reaches T t.connector before s n state) {response : Response}
    (came : (T.execute s columnsQuery [.str t.name, .str keyspace] state).1.outcome =
      .ok response)
    (maps : ∀ row ∈ response.rows.getD [], (row.map Prod.fst).Nodup) :
    let rows := response.rows.getD []
    let turn := t.columns.turn T w
    ((∃ columns, turn.answer = .ok columns) ↔ ∀ row ∈ rows, ∃ c, Column.Lists row c) ∧
      (∀ columns, turn.answer = .ok columns ↔ List.Forall₂ Column.Lists rows columns) ∧
      (∀ f, turn.answer = .error f ↔ ∃ earlier row later fault, rows = earlier ++ row :: later ∧
        (∀ row ∈ earlier, ∃ c, Column.Lists row c) ∧ (∀ c, ¬ Column.Lists row c) ∧
        Column.RowFault row fault ∧ f = (CqlError.json (.shape fault)).failure) ∧
      turn.demands = before ++ [.execute s columnsQuery [.str t.name, .str keyspace]] ∧
      turn.next.state = .opened s := by
  intro rows turn
  have turns : turn = _ := turn_columns_of_answer required reached came
  have answer : turn.answer = (readColumns rows).mapError CqlError.failure := by rw [turns]
  have listed (columns : List Column) :
      turn.answer = .ok columns ↔ List.Forall₂ Column.Lists rows columns := by
    rw [answer, ← readColumns_eq_ok_iff maps]
    cases readColumns rows <;> simp [Except.mapError]
  refine ⟨?_, listed, fun f => ?_, by rw [turns], by rw [turns]⟩
  · simp only [listed, exists_forall₂_iff]
  · have failed : turn.answer = .error f ↔ ∃ e, readColumns rows = .error e ∧ f = e.failure := by
      rw [answer]
      cases readColumns rows <;> simp [Except.mapError, eq_comm]
    rw [failed]
    constructor
    · rintro ⟨e, unread, rfl⟩
      obtain ⟨earlier, row, later, fault, split, before, here, rfl⟩ :=
        (readColumns_eq_error_iff maps).1 unread
      have among : row ∈ response.rows.getD [] := by
        rw [split]
        exact List.mem_append_cons_self
      exact ⟨earlier, row, later, fault, split, before,
        fun c => Column.not_lists_of_rowFault (maps row among) here, here, rfl⟩
    · rintro ⟨earlier, row, later, fault, split, before, -, here, rfl⟩
      exact ⟨_, (readColumns_eq_error_iff maps).2
        ⟨earlier, row, later, fault, split, before, here, rfl⟩, rfl⟩

theorem products_listed :
    let rows : List Row :=
      [[("kind", .obj [("partition_key", .null)]), ("name", .str "id"), ("position", .int 0),
        ("type", .str "uuid")],
      [("kind", .null), ("name", .str "label"), ("type", .str "text")]]
    let w : World (List (List Row)) := { transport := [rows] }
    (∀ row ∈ rows, (row.map Prod.fst).Nodup) ∧
      List.Forall₂ Column.Lists rows [⟨"id", "uuid", true⟩, ⟨"label", "text", false⟩] ∧
      (products.columns.turn .replaying w).next.state = .opened ⟨0⟩ := by
  intro rows w
  have maps : ∀ row ∈ rows, (row.map Prod.fst).Nodup := by decide
  have reached : w.machine.Reaches .replaying products.connector
      [.connect products.connector.config] ⟨0⟩ 1 [rows] := .connected rfl rfl
  have came : (Transport.replaying.execute ⟨0⟩ columnsQuery [.str "products", .str "shop"]
      [rows]).1.outcome = .ok ⟨some rows, []⟩ := rfl
  obtain ⟨-, listed, -, -, opened⟩ := columns_listed (t := products) rfl reached came maps
  exact ⟨maps, (listed _).1 rfl, opened⟩

end Table

end CqlClient
