import CqlClient.Connector.Basic
import CqlClient.Connector.Run
import CqlClient.Proofs.Format.Fault

/-!
# A connector as a state machine

`Machine` is a connector as its lifecycle is specified: closed, or open with a session. It answers a
command, demands of its transport what that takes, and goes into its next state. By `observe_eq` a
connector whose calls run one after another cannot be told from this machine, whatever its transport
comes back with.
-/

namespace CqlClient

/-- An error as a caller sees it. -/
structure Failure where
  kind : ErrorKind
  detail : String

def CqlError.failure (e : CqlError) : Failure := ⟨e.kind, e.detail⟩

inductive Demand where
  | connect (config : Config)
  | execute (session : Session) (cql : String) (params : List Json)
  | shutdown (session : Session)

inductive Lifecycle where
  | closed
  | opened (session : Session)

structure Machine (τ : Type) where
  state : Lifecycle := .closed
  /-- How many sessions there were so far; the next one is numbered by it. -/
  established : Nat := 0
  transport : τ

/-- What a machine did: its answer, its demands in their order, and its next state. -/
structure Turn (τ α : Type) where
  answer : Except Failure α
  demands : List Demand
  next : Machine τ

inductive Command where
  | connect
  | execute (statement : Statement) (params : List Json)
  | healthCheck
  | close

/-- What can be seen of a command; only a statement is answered with rows. -/
structure Observation where
  answer : Except Failure (Option (List Row))
  demands : List Demand
  isOpen : Bool

variable {τ α β : Type}

namespace Turn

def after (earlier : List Demand) (turn : Turn τ α) : Turn τ α :=
  { turn with demands := earlier ++ turn.demands }

def map (g : α → β) (turn : Turn τ α) : Turn τ β := { turn with answer := turn.answer.map g }

/-- Goes on from the next state, unless the answer is a failure. -/
def andThen (turn : Turn τ α) (k : α → Machine τ → Turn τ β) : Turn τ β :=
  match turn.answer with
  | .ok a => (k a turn.next).after turn.demands
  | .error e => { answer := .error e, demands := turn.demands, next := turn.next }

theorem map_map {γ : Type} (g : α → β) (h : β → γ) (turn : Turn τ α) :
    (turn.map g).map h = turn.map (h ∘ g) := by
  cases turn with
  | mk answer demands next => cases answer <;> rfl

theorem andThen_answer (turn : Turn τ α) (g : α → β) :
    turn.andThen (fun a m => { answer := .ok (g a), demands := [], next := m }) = turn.map g := by
  cases turn with
  | mk answer demands next =>
    cases answer with
    | ok a => simp only [andThen, map, after, List.append_nil, Except.map]
    | error e => rfl

theorem andThen_after (earlier : List Demand) (turn : Turn τ α) (k : α → Machine τ → Turn τ β) :
    (turn.after earlier).andThen k = (turn.andThen k).after earlier := by
  cases turn with
  | mk answer demands next =>
    cases answer with
    | ok a => simp only [andThen, after, List.append_assoc]
    | error e => rfl

end Turn

/-! ## The machine -/

def Lifecycle.isOpen : Lifecycle → Bool
  | .closed => false
  | .opened _ => true

namespace Machine

variable (T : Transport τ) (c : Connector)

/-- The session of an open machine; a closed one asks for a connection. -/
def acquire (m : Machine τ) : Turn τ Session :=
  match m.state with
  | .opened s => { answer := .ok s, demands := [], next := m }
  | .closed =>
    let (reply, transport) := T.connect c.config m.transport
    Turn.after [.connect c.config] <|
      match reply.outcome with
      | .ok () =>
        let s : Session := ⟨m.established⟩
        { answer := .ok s, demands := [], next := ⟨.opened s, m.established + 1, transport⟩ }
      | .error e => { answer := .error e.failure, demands := [], next := { m with transport } }

/-- Fails for some reason, after shutting the session down; what comes of that is of no account. -/
def abandon (s : Session) (reason : Failure) (m : Machine τ) : Turn τ α where
  answer := .error reason
  demands := [.shutdown s]
  next := { m with state := .closed, transport := (T.shutdown s m.transport).2 }

def submit (s : Session) (cql : String) (params : List Json) (m : Machine τ) : Turn τ (List Row) :=
  let (reply, transport) := T.execute s cql params m.transport
  let m := { m with transport }
  Turn.after [.execute s cql params] <|
    match reply.outcome with
    | .ok response => { answer := .ok (response.rows.getD []), demands := [], next := m }
    | .error e => m.abandon T s e.failure

def execute (statement : Statement) (params : List Json) (m : Machine τ) : Turn τ (List Row) :=
  (m.acquire T c).andThen fun s m =>
    match statement with
    | .text cql => m.submit T s cql params
    | .query q =>
      match c.formatter.format q with
      | .ok cql => m.submit T s cql params
      | .error e => m.abandon T s ⟨.render, e.detail⟩

def close (m : Machine τ) : Turn τ Unit :=
  match m.state with
  | .closed => { answer := .ok (), demands := [], next := m }
  | .opened s =>
    let (reply, transport) := T.shutdown s m.transport
    let m := { m with state := .closed, transport }
    Turn.after [.shutdown s] <|
      match reply.outcome with
      | .ok () => { answer := .ok (), demands := [], next := m }
      | .error e => { answer := .error e.failure, demands := [], next := m }

def perform : Command → Machine τ → Turn τ (Option (List Row))
  | .connect, m => (m.acquire T c).map fun _ => none
  | .execute statement params, m => (m.execute T c statement params).map some
  | .healthCheck, m =>
    (m.execute T c (.text "SELECT release_version FROM system.local") []).map fun _ => none
  | .close, m => (m.close T).map fun _ => none

def observe : List Command → Machine τ → List Observation
  | [], _ => []
  | command :: commands, m =>
    let turn := m.perform T c command
    ⟨turn.answer, turn.demands, turn.next.state.isOpen⟩ :: turn.next.observe commands

end Machine

/-! ## What a run of a call shows -/

def Effect.demand? : Effect → Option Demand
  | .logged _ => none
  | .connecting config => some (.connect config)
  | .sent s cql params => some (.execute s cql params)
  | .released s => some (.shutdown s)

theorem Reply.demands (r : Reply α) : r.effects.filterMap Effect.demand? = [] := by
  rw [Reply.effects, List.filterMap_map, List.filterMap_eq_nil_iff]
  intro e _
  rfl

def World.machine (w : World τ) : Machine τ where
  state := match w.handle with
    | none => .closed
    | some s => .opened s
  established := w.established
  transport := w.transport

theorem World.machine_eq_opened {w : World τ} {s : Session} (held : w.handle = some s) :
    w.machine = ⟨.opened s, w.established, w.transport⟩ := by
  rw [machine, held]

theorem World.machine_eq_closed {w : World τ} (vacant : w.handle = none) :
    w.machine = ⟨.closed, w.established, w.transport⟩ := by
  rw [machine, vacant]

theorem World.isOpen_machine (w : World τ) : w.machine.state.isOpen = w.handle.isSome := by
  cases found : w.handle <;> simp only [machine, found] <;> rfl

def Outcome.turn (o : Outcome τ (Except CqlError α)) : Turn τ α where
  answer := o.result.mapError CqlError.failure
  demands := o.effects.filterMap Effect.demand?
  next := o.world.machine

theorem Outcome.turn_after (earlier : List Effect) (o : Outcome τ (Except CqlError α)) :
    (o.after earlier).turn = o.turn.after (earlier.filterMap Effect.demand?) := by
  simp only [turn, after, Turn.after, List.filterMap_append]

theorem Outcome.turn_after_nil {earlier : List Effect}
    (silent : earlier.filterMap Effect.demand? = []) (o : Outcome τ (Except CqlError α)) :
    (o.after earlier).turn = o.turn := by
  rw [turn_after, silent]
  rfl

/-- The call over this transport, while no other call is under way. -/
def Call.turn (T : Transport τ) (call : Request α) (w : World τ) : Turn τ α :=
  (call.run T .nothing w).turn

namespace Call

variable (T : Transport τ) (w : World τ)

theorem turn_log (event : Event) (call : Request α) : turn T (.log event call) w = turn T call w :=
  Outcome.turn_after_nil rfl _

theorem turn_logAll (events : List Event) (call : Request α) :
    turn T (logAll events call) w = turn T call w := by
  induction events with
  | nil => rfl
  | cons event events ih => exact (turn_log T w event _).trans ih

theorem turn_handshake (config : Config) (next : Except CqlError Session → Request α) :
    turn T (.handshake config next) w =
      (match (T.connect config w.transport).1.outcome with
        | .ok () => turn T (next (.ok ⟨w.established⟩))
            ⟨some ⟨w.established⟩, w.established + 1, (T.connect config w.transport).2⟩
        | .error e => turn T (next (.error e))
            { w with transport := (T.connect config w.transport).2 }).after [.connect config] := by
  have demands : (.connecting config :: (T.connect config w.transport).1.effects).filterMap
      Effect.demand? = [.connect config] := by
    rw [List.filterMap_cons, Reply.demands]
    rfl
  simp only [turn, run]
  cases (T.connect config w.transport).1.outcome <;> rw [Outcome.turn_after, demands]

theorem turn_send (s : Session) (cql : String) (params : List Json)
    (next : Except CqlError Response → Request α) :
    turn T (.send s cql params next) w =
      (turn T (next (T.execute s cql params w.transport).1.outcome)
        { w with transport := (T.execute s cql params w.transport).2 }).after
        [.execute s cql params] := by
  have demands : (.sent s cql params :: ([] : List Effect) ++
      (T.execute s cql params w.transport).1.effects).filterMap Effect.demand? =
      [.execute s cql params] := by
    rw [List.cons_append, List.filterMap_cons, List.nil_append, Reply.demands]
    rfl
  rw [← demands, turn, turn, ← Outcome.turn_after]
  rfl

theorem turn_shutdown (s : Session) (next : Except CqlError Unit → Request α) :
    turn T (.shutdown s next) w =
      (turn T (next (T.shutdown s w.transport).1.outcome)
        { w with transport := (T.shutdown s w.transport).2 }).after [.shutdown s] := by
  have demands : (.released s :: (T.shutdown s w.transport).1.effects).filterMap Effect.demand? =
      [.shutdown s] := by
    rw [List.filterMap_cons, Reply.demands]
    rfl
  rw [← demands, turn, turn, ← Outcome.turn_after]
  rfl

theorem turn_look (next : Option Session → Request α) :
    turn T (.look next) w = turn T (next w.handle) w := rfl

theorem turn_claim (next : Option Session → Request α) :
    turn T (.claim next) w = turn T (next w.handle) w := rfl

theorem turn_take (next : Option Session → Request α) :
    turn T (.take next) w = turn T (next w.handle) { w with handle := none } := rfl

theorem turn_discard {s : Session} (held : w.handle = some s) (next : Bool → Request α) :
    turn T (.discard s next) w = turn T (next true) { w with handle := none } := by
  rw [turn, run, if_pos held]
  rfl

theorem run_bind {m : Meanwhile τ} (call : Call α) (k : α → Call β) (w : World τ) :
    (call.bind k).run T m w =
      ((k (call.run T m w).result).run T m (call.run T m w).world).after
        (call.run T m w).effects := by
  have nested (earlier later : List Effect) (o : Outcome τ β) :
      (o.after later).after earlier = o.after (earlier ++ later) := by
    simp only [Outcome.after, List.append_assoc]
  induction call generalizing w with
  | done a => rfl
  | look next ih => exact ih w.handle w
  | claim next ih => exact ih w.handle w
  | handshake config next ih =>
    simp only [bind, run]
    cases (T.connect config w.transport).1.outcome with
    | ok u =>
      simp only
      rw [ih, nested]
      rfl
    | error e =>
      simp only
      rw [ih, nested]
      rfl
  | send s cql params next ih =>
    simp only [bind, run]
    rw [ih, nested]
    rfl
  | discard s next ih =>
    simp only [bind, run]
    split
    · exact ih true _
    · exact ih false w
  | take next ih => exact ih w.handle _
  | shutdown s next ih =>
    simp only [bind, run]
    rw [ih, nested]
    rfl
  | log e next ih =>
    simp only [bind, run]
    rw [ih, nested]
    rfl

theorem turn_map (call : Request α) (g : α → β) (w : World τ) :
    turn T (call.andThen fun a => Request.ok (g a)) w = (turn T call w).map g := by
  rw [turn, Request.andThen, run_bind, turn, Outcome.turn_after]
  cases came : (call.run T .nothing w).result with
  | ok a =>
    simp only [Request.ok, run, Outcome.turn, Turn.after, Turn.map, came]
    simp [Except.mapError, Except.map]
  | error e =>
    simp only [Request.fail, run, Outcome.turn, Turn.after, Turn.map, came]
    simp [Except.mapError, Except.map]

end Call

/-! ## The connector does what the machine does -/

namespace Connector

variable (T : Transport τ) (c : Connector)

/-- The session that is dropped is still the current one, since no other call came between. -/
theorem turn_failOn {s : Session} (event : Event) (e : CqlError) {w : World τ}
    (held : w.handle = some s) :
    (failOn s event e : Request α).turn T w = w.machine.abandon T s e.failure := by
  rw [failOn, Call.turn_log, forceClose, Call.bind, Call.turn_discard T w held, Call.bind,
    Call.turn_shutdown, World.machine_eq_opened held]
  cases (T.shutdown s w.transport).1.outcome with
  | ok u => rfl
  | error e' =>
    rw [Call.bind, Call.turn_log]
    rfl

theorem turn_executeOn {s : Session} (cql : String) (params : List Json) {w : World τ}
    (held : w.handle = some s) :
    (executeOn s cql params).turn T w = w.machine.submit T s cql params := by
  rw [executeOn, Call.turn_log, Call.turn_send, World.machine_eq_opened held, Machine.submit]
  cases came : T.execute s cql params w.transport with
  | mk reply transport =>
    simp only
    cases reply.outcome with
    | ok response =>
      simp only
      rw [Call.turn_logAll, ← World.machine_eq_opened (w := { w with transport }) held]
      rfl
    | error e =>
      simp only
      rw [turn_failOn T _ e (w := { w with transport }) held,
        ← World.machine_eq_opened (w := { w with transport }) held]

theorem turn_session_andThen {k : Session → Request α} {k' : Session → Machine τ → Turn τ α}
    (hk : ∀ (s : Session) {w : World τ}, w.handle = some s → (k s).turn T w = k' s w.machine)
    (w : World τ) :
    (c.session.andThen k).turn T w = (w.machine.acquire T c).andThen k' := by
  rw [session, Request.andThen, Call.bind, Call.turn_look]
  cases held : w.handle with
  | some s =>
    have goes := hk s held
    rw [World.machine_eq_opened held] at goes ⊢
    exact goes
  | none =>
    -- The claim finds what the look found, nothing, since no other call came between.
    rw [Call.bind, Call.turn_claim, held, Call.bind, Call.turn_log, Call.bind, Call.turn_handshake,
      Machine.acquire, World.machine_eq_closed held]
    cases came : T.connect c.config w.transport with
    | mk reply transport =>
      simp only
      cases reply.outcome with
      | ok u =>
        simp only
        rw [Call.bind, Call.turn_log, Turn.andThen_after]
        congr 1
        exact hk ⟨w.established⟩ rfl
      | error e =>
        simp only
        rw [Call.bind, Call.turn_log, held]
        rfl

theorem turn_connect (w : World τ) :
    c.connect.turn T w = (w.machine.acquire T c).map fun _ => () := by
  have done (s : Session) {w : World τ} (_ : w.handle = some s) :
      (Request.ok () : Request Unit).turn T w =
        { answer := .ok (), demands := [], next := w.machine } := rfl
  rw [connect, turn_session_andThen T c done, Turn.andThen_answer]

theorem turn_execute (statement : Statement) (params : List Json) (w : World τ) :
    (c.execute statement params).turn T w = w.machine.execute T c statement params := by
  refine turn_session_andThen T c (fun s w held => ?_) w
  cases statement with
  | text cql => exact turn_executeOn T cql params held
  | query q =>
    simp only [Formatter.render]
    cases formatted : c.formatter.format q with
    | ok cql => exact turn_executeOn T cql params held
    | error e =>
      -- `asRender` would leave a transport error as it is, but a formatter fails with refusals only.
      have refusal := c.formatter.format_refuses q e formatted
      have failure : e.asRender.failure = ⟨.render, e.detail⟩ := by
        rw [CqlError.failure, refusal.kind_asRender, CqlError.detail_asRender]
      simp only
      rw [turn_failOn T (.compileFailed e) e.asRender held, failure]

theorem turn_close (w : World τ) : c.close.turn T w = w.machine.close T := by
  rw [close, Call.turn_take]
  cases held : w.handle with
  | none =>
    rw [World.machine_eq_closed held]
    rfl
  | some s =>
    rw [World.machine_eq_opened held]
    simp only
    rw [Call.turn_shutdown]
    cases came : T.shutdown s w.transport with
    | mk reply transport =>
      simp only [Machine.close, came]
      cases reply.outcome with
      | ok u =>
        simp only
        rw [Call.turn_log]
        rfl
      | error e => rfl

end Connector

/-! ## Commands one after another -/

def Command.call (c : Connector) : Command → Request (Option (List Row))
  | .connect => c.connect.andThen fun _ => Request.ok none
  | .execute statement params =>
    (c.execute statement params).andThen fun rows => Request.ok (some rows)
  | .healthCheck => c.healthCheck.andThen fun _ => Request.ok none
  | .close => c.close.andThen fun _ => Request.ok none

theorem Command.turn_call (T : Transport τ) (c : Connector) (command : Command) (w : World τ) :
    (command.call c).turn T w = w.machine.perform T c command := by
  cases command with
  | connect =>
    rw [call, Call.turn_map, Connector.turn_connect, Turn.map_map]
    rfl
  | execute statement params =>
    rw [call, Call.turn_map, Connector.turn_execute]
    rfl
  | healthCheck =>
    rw [call, Call.turn_map, Connector.healthCheck, Call.turn_map, Connector.turn_execute,
      Turn.map_map]
    rfl
  | close =>
    rw [call, Call.turn_map, Connector.turn_close]
    rfl

namespace Connector

def observe (T : Transport τ) (c : Connector) : List Command → World τ → List Observation
  | [], _ => []
  | command :: commands, w =>
    let outcome := (command.call c).run T .nothing w
    { answer := outcome.result.mapError CqlError.failure
      demands := outcome.effects.filterMap Effect.demand?
      isOpen := outcome.world.handle.isSome } :: c.observe T commands outcome.world

theorem observe_from (T : Transport τ) (c : Connector) (commands : List Command) (w : World τ) :
    c.observe T commands w = w.machine.observe T c commands := by
  induction commands generalizing w with
  | nil => rfl
  | cons command commands ih =>
    rw [observe, Machine.observe, ih, ← Command.turn_call T c command w]
    simp only [Call.turn, Outcome.turn, World.isOpen_machine]

/-- Over every transport, a new connector answers commands, makes its demands and is open just as
the machine that starts closed. -/
theorem observe_eq (T : Transport τ) (c : Connector) (commands : List Command) (t : τ) :
    c.observe T commands { transport := t } = Machine.observe T c commands { transport := t } :=
  c.observe_from T commands _

end Connector

end CqlClient
