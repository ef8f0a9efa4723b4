import CqlClient.Proofs.Connector.Machine

/-!
# Requests of several statements

A request that goes on from the answers of others is taken turn by turn: `Call.turn_andThen`. A
statement of its text is handed to a session in one of three ways, `Machine.Sends`: there is no
session to be had, the session answers, or it fails and is given up. When a request fails, either
it was refused for what it asks, or the transport is to blame, `Turn.Blames`.
-/

namespace CqlClient

variable {τ α β : Type}

def Machine.world (m : Machine τ) : World τ where
  handle := match m.state with
    | .closed => none
    | .opened s => some s
  established := m.established
  transport := m.transport

@[simp] theorem Machine.machine_world (m : Machine τ) : m.world.machine = m := by
  obtain ⟨state, established, transport⟩ := m
  cases state <;> rfl

@[simp] theorem World.world_machine (w : World τ) : w.machine.world = w := by
  obtain ⟨handle, established, transport⟩ := w
  cases handle <;> rfl

/-! ## One turn after another -/

def Demand.statement? : Demand → Option (String × List Json)
  | .execute _ cql params => some (cql, params)
  | _ => none

namespace Turn

/-- The answer was there before the transport was asked. -/
def settled (r : Except CqlError α) (m : Machine τ) : Turn τ α where
  answer := r.mapError CqlError.failure
  demands := []
  next := m

/-- The statements that were handed to a session. -/
def statements (turn : Turn τ α) : List (String × List Json) :=
  turn.demands.filterMap Demand.statement?

variable {turn : Turn τ α} {k : α → Machine τ → Turn τ β}

theorem andThen_of_ok {a : α} (h : turn.answer = .ok a) :
    turn.andThen k = (k a turn.next).after turn.demands := by
  rw [andThen, h]

theorem andThen_of_error {f : Failure} (h : turn.answer = .error f) :
    turn.andThen k = ⟨.error f, turn.demands, turn.next⟩ := by
  rw [andThen, h]

theorem answer_andThen_of_ok {a : α} (h : turn.answer = .ok a) :
    (turn.andThen k).answer = (k a turn.next).answer := by
  rw [andThen_of_ok h]
  rfl

theorem next_andThen_of_ok {a : α} (h : turn.answer = .ok a) :
    (turn.andThen k).next = (k a turn.next).next := by
  rw [andThen_of_ok h]
  rfl

theorem statements_after (earlier : List Demand) (turn : Turn τ α) :
    (turn.after earlier).statements = earlier.filterMap Demand.statement? ++ turn.statements :=
  List.filterMap_append

theorem statements_andThen_of_ok {a : α} (h : turn.answer = .ok a) :
    (turn.andThen k).statements = turn.statements ++ (k a turn.next).statements := by
  rw [andThen_of_ok h, statements_after]
  rfl

theorem statements_andThen_of_error {f : Failure} (h : turn.answer = .error f) :
    (turn.andThen k).statements = turn.statements := by
  rw [andThen_of_error h]
  rfl

theorem statements_andThen_settled (r : α → Except CqlError β) :
    (turn.andThen fun a m => settled (r a) m).statements = turn.statements := by
  cases answer : turn.answer with
  | ok a => exact (statements_andThen_of_ok answer).trans (List.append_nil _)
  | error f => exact statements_andThen_of_error answer

end Turn

namespace Call

variable (T : Transport τ) (w : World τ)

theorem turn_done (r : Except CqlError α) : turn T (.done r) w = Turn.settled r w.machine := rfl

theorem turn_ok (a : α) : turn T (Request.ok a) w = Turn.settled (.ok a) w.machine := rfl

theorem turn_andThen (r : Request α) (f : α → Request β) :
    turn T (r.andThen f) w = (turn T r w).andThen fun a m => turn T (f a) m.world := by
  rw [turn, Request.andThen, run_bind, Outcome.turn_after]
  cases came : (r.run T .nothing w).result with
  | ok a =>
    have answer : (turn T r w).answer = .ok a := by
      rw [turn, Outcome.turn, came]
      rfl
    have next : (turn T r w).next.world = (r.run T .nothing w).world := World.world_machine _
    rw [Turn.andThen_of_ok answer, next]
    rfl
  | error e =>
    have answer : (turn T r w).answer = .error e.failure := by
      rw [turn, Outcome.turn, came]
      rfl
    rw [Turn.andThen_of_error answer]
    simp only [Request.fail, run, Outcome.turn, Turn.after, List.filterMap_nil, List.append_nil]
    rfl

theorem turn_givenOk (r : Except CqlError α) (f : α → Request β) :
    turn T (Request.givenOk r f) w =
      match r with
      | .ok a => turn T (f a) w
      | .error e => Turn.settled (.error e) w.machine := by
  cases r <;> rfl

end Call

/-! ## Statements of their text -/

/-- The session that a machine hands a statement to: after which demands, as the last of how many,
and with the transport in which state. -/
inductive Machine.Reaches (T : Transport τ) (c : Connector) (m : Machine τ) :
    List Demand → Session → Nat → τ → Prop where
  | held {s : Session} (held : m.state = .opened s) : Reaches T c m [] s m.established m.transport
  | connected (closed : m.state = .closed)
      (came : (T.connect c.config m.transport).1.outcome = .ok ()) :
      Reaches T c m [.connect c.config] ⟨m.established⟩ (m.established + 1)
        (T.connect c.config m.transport).2

inductive Machine.Sends (T : Transport τ) (c : Connector) (cql : String) (params : List Json)
    (m : Machine τ) : Turn τ (List Row) → Prop where
  | unconnected {e : CqlError} (closed : m.state = .closed)
      (failed : (T.connect c.config m.transport).1.outcome = .error e) :
      Sends T c cql params m ⟨.error e.failure, [.connect c.config],
        { m with transport := (T.connect c.config m.transport).2 }⟩
  | answered {before : List Demand} {s : Session} {n : Nat} {t : τ} {response : Response}
      (reached : m.Reaches T c before s n t)
      (came : (T.execute s cql params t).1.outcome = .ok response) :
      Sends T c cql params m ⟨.ok (response.rows.getD []), before ++ [.execute s cql params],
        ⟨.opened s, n, (T.execute s cql params t).2⟩⟩
  | failed {before : List Demand} {s : Session} {n : Nat} {t : τ} {e : CqlError}
      (reached : m.Reaches T c before s n t)
      (failed : (T.execute s cql params t).1.outcome = .error e) :
      Sends T c cql params m ⟨.error e.failure, before ++ [.execute s cql params, .shutdown s],
        ⟨.closed, n, (T.shutdown s (T.execute s cql params t).2).2⟩⟩

section Sends

variable {T : Transport τ} {c : Connector} {cql : String} {params : List Json} {m : Machine τ}
  {turn : Turn τ (List Row)}

theorem Machine.Reaches.sends {before : List Demand} {s : Session} {n : Nat} {t : τ}
    (h : m.Reaches T c before s n t) :
    m.Sends T c cql params ((Machine.submit T s cql params ⟨.opened s, n, t⟩).after before) := by
  unfold Machine.submit
  cases came : (T.execute s cql params t).1.outcome with
  | ok response => simpa [came, Turn.after] using Machine.Sends.answered h came
  | error e => simpa [came, Turn.after, Machine.abandon] using Machine.Sends.failed h came

theorem Machine.execute_sends (m : Machine τ) :
    m.Sends T c cql params (m.execute T c (.text cql) params) := by
  obtain ⟨state, n, t⟩ := m
  cases state with
  | opened s => exact (Machine.Reaches.held (m := ⟨.opened s, n, t⟩) rfl).sends
  | closed =>
    unfold Machine.execute Machine.acquire
    cases came : (T.connect c.config t).1.outcome with
    | ok u =>
      have reached := Machine.Reaches.connected (m := ⟨.closed, n, t⟩) rfl came
      simpa [came, Turn.after, Turn.andThen] using reached.sends
    | error e =>
      have failed : Machine.Sends T c cql params ⟨.closed, n, t⟩ _ := .unconnected rfl came
      simpa [came, Turn.after, Turn.andThen] using failed

theorem Machine.Reaches.no_statement {before : List Demand} {s : Session} {n : Nat} {t : τ}
    (h : m.Reaches T c before s n t) : before.filterMap Demand.statement? = [] := by
  cases h <;> rfl

theorem Machine.Sends.statements_eq (h : m.Sends T c cql params turn) :
    turn.statements = [(cql, params)] ∨ turn.statements = [] ∧ ∃ f, turn.answer = .error f := by
  cases h with
  | unconnected closed failed => exact .inr ⟨rfl, _, rfl⟩
  | answered reached came =>
    left
    rw [Turn.statements, List.filterMap_append, reached.no_statement]
    rfl
  | failed reached failed =>
    left
    rw [Turn.statements, List.filterMap_append, reached.no_statement]
    rfl

theorem Machine.Sends.statements_of_ok (h : m.Sends T c cql params turn) {rows : List Row}
    (answer : turn.answer = .ok rows) : turn.statements = [(cql, params)] := by
  refine h.statements_eq.resolve_right fun none => ?_
  obtain ⟨-, f, failed⟩ := none
  rw [answer] at failed
  cases failed

theorem Machine.Sends.eq_of_mem (h : m.Sends T c cql params turn) {s : String × List Json}
    (sent : s ∈ turn.statements) : s = (cql, params) := by
  rcases h.statements_eq with one | ⟨none, -⟩
  · rw [one] at sent
    exact List.mem_singleton.1 sent
  · rw [none] at sent
    cases sent

end Sends

/-! ## Who is to blame -/

namespace Turn

/-- The transport came back with this error in the turn. When a statement failed, giving up its
session is all that followed. -/
inductive Blames (T : Transport τ) (turn : Turn τ α) (e : CqlError) : Prop where
  | connect {config : Config} {t : τ} (asked : .connect config ∈ turn.demands)
      (failed : (T.connect config t).1.outcome = .error e)
  | execute {s : Session} {cql : String} {params : List Json} {t : τ}
      (asked : .execute s cql params ∈ turn.demands)
      (failed : (T.execute s cql params t).1.outcome = .error e)
      (left : turn.next.transport = (T.shutdown s (T.execute s cql params t).2).2)
  | shutdown {s : Session} {t : τ} (asked : .shutdown s ∈ turn.demands)
      (failed : (T.shutdown s t).1.outcome = .error e)

/-- A failure is the transport's, or one of the request's own. -/
def Justified (T : Transport τ) (own : Failure → Prop) (turn : Turn τ α) : Prop :=
  ∀ f, turn.answer = .error f → (∃ e : CqlError, f = e.failure ∧ turn.Blames T e) ∨ own f

variable {T : Transport τ} {own : Failure → Prop} {turn : Turn τ α}

theorem Blames.of_demands {e : CqlError} {turn' : Turn τ β} (h : turn.Blames T e)
    (demands : ∀ d ∈ turn.demands, d ∈ turn'.demands) (next : turn'.next = turn.next) :
    turn'.Blames T e := by
  cases h with
  | connect asked failed => exact .connect (demands _ asked) failed
  | execute asked failed left => exact .execute (demands _ asked) failed (next ▸ left)
  | shutdown asked failed => exact .shutdown (demands _ asked) failed

namespace Justified

theorem settled {r : Except CqlError α} (h : ∀ e, r = .error e → own e.failure) (m : Machine τ) :
    (Turn.settled r m).Justified T own := by
  intro f failed
  cases r with
  | ok a => cases failed
  | error e =>
    cases failed
    exact .inr (h e rfl)

theorem after (h : turn.Justified T own) (earlier : List Demand) :
    (turn.after earlier).Justified T own := by
  intro f failed
  rcases h f failed with ⟨e, same, blames⟩ | mine
  · have demands (d : Demand) (member : d ∈ turn.demands) : d ∈ (turn.after earlier).demands :=
      List.mem_append_right earlier member
    exact .inl ⟨e, same, blames.of_demands demands rfl⟩
  · exact .inr mine

theorem map (h : turn.Justified T own) (g : α → β) : (turn.map g).Justified T own := by
  intro f failed
  cases answer : turn.answer with
  | ok a => simp [Turn.map, answer, Except.map] at failed
  | error f' =>
    obtain rfl : f' = f := by simpa [Turn.map, answer, Except.map] using failed
    rcases h f' answer with ⟨e, same, blames⟩ | mine
    · exact .inl ⟨e, same, blames.of_demands (fun d member => member) rfl⟩
    · exact .inr mine

theorem andThen {k : α → Machine τ → Turn τ β} (h : turn.Justified T own)
    (hk : ∀ a, turn.answer = .ok a → (k a turn.next).Justified T own) :
    (turn.andThen k).Justified T own := by
  cases answer : turn.answer with
  | ok a =>
    rw [andThen_of_ok answer]
    exact (hk a answer).after _
  | error f' =>
    rw [andThen_of_error answer]
    intro f failed
    obtain rfl : f' = f := Except.error.inj failed
    rcases h f' answer with ⟨e, same, blames⟩ | mine
    · exact .inl ⟨e, same, blames.of_demands (fun d member => member) rfl⟩
    · exact .inr mine

end Justified

end Turn

namespace Machine

variable {T : Transport τ} {own : Failure → Prop} (c : Connector) (m : Machine τ)

theorem acquire_justified : (m.acquire T c).Justified T own := by
  intro f failed
  obtain ⟨state, n, t⟩ := m
  cases state with
  | opened s => cases failed
  | closed =>
    unfold acquire at failed ⊢
    cases came : (T.connect c.config t).1.outcome with
    | ok u => simp [came, Turn.after] at failed
    | error e =>
      obtain rfl : e.failure = f := by simpa [came, Turn.after] using failed
      exact .inl ⟨e, rfl, .connect (by simp [came, Turn.after]) came⟩

theorem submit_justified (s : Session) (cql : String) (params : List Json) :
    (m.submit T s cql params).Justified T own := by
  intro f failed
  unfold submit at failed ⊢
  cases came : (T.execute s cql params m.transport).1.outcome with
  | ok response => simp [came, Turn.after] at failed
  | error e =>
    obtain rfl : e.failure = f := by simpa [came, Turn.after, abandon] using failed
    refine .inl ⟨e, rfl, .execute (by simp [came, Turn.after]) came ?_⟩
    simp [came, Turn.after, abandon]

theorem execute_text_justified (cql : String) (params : List Json) :
    (m.execute T c (.text cql) params).Justified T own :=
  (m.acquire_justified c).andThen fun _ _ => submit_justified _ _ _ _

theorem execute_justified (rendering : ∀ detail, own ⟨.render, detail⟩) (statement : Statement)
    (params : List Json) : (m.execute T c statement params).Justified T own := by
  refine (m.acquire_justified c).andThen fun s _ => ?_
  cases statement with
  | text cql => exact submit_justified _ _ _ _
  | query q =>
    cases formatted : c.formatter.format q with
    | ok cql => simpa only [formatted] using submit_justified _ _ _ _
    | error e =>
      intro f failed
      simp only [formatted] at failed
      cases failed
      exact .inr (rendering e.detail)

theorem close_justified : (m.close T).Justified T own := by
  intro f failed
  obtain ⟨state, n, t⟩ := m
  cases state with
  | closed => cases failed
  | opened s =>
    unfold close at failed ⊢
    cases came : (T.shutdown s t).1.outcome with
    | ok u => simp [came, Turn.after] at failed
    | error e =>
      obtain rfl : e.failure = f := by simpa [came, Turn.after] using failed
      exact .inl ⟨e, rfl, .shutdown (by simp [came, Turn.after]) came⟩

end Machine

end CqlClient
