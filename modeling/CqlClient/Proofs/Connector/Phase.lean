import CqlClient.Proofs.Connector.Pool

/-!
# Phases of a call

Where a call stands follows from its acts. `Call.Orderly` says that a call does at every point only
what its phase allows, whatever it finds and is answered: it takes up no session before it looked,
asks for a new one only while it keeps the lock, drops its session only after a failure, and gives
up what it took. `Operation.orderly` says so of every operation of a connector.
-/

namespace CqlClient

inductive Phase where
  | free
  /-- The call keeps the lock and is to ask for a session. -/
  | keeping
  | ready (s : Session)
  /-- What the call was to do on its session failed. -/
  | failed (s : Session)
  | closing
  /-- The call has emptied the handle and is to shut the session down. -/
  | owing (s : Session)
  | over
  deriving DecidableEq

namespace Phase

def after (p : Phase) : Act → Phase
  | .looked none => .free
  | .looked (some s) => .ready s
  | .claimed none => .keeping
  | .claimed (some s) => .ready s
  | .connected (.ok s) => .ready s
  | .connected (.error _) => .over
  | .sent _ _ _ (.ok _) => .over
  | .sent s _ _ (.error _) => .failed s
  | .discarded s true => .owing s
  | .discarded _ false => .over
  | .took none => .over
  | .took (some s) => .owing s
  | .released _ _ => .over
  | .logged (.compileFailed _) =>
    match p with
    | .ready s => .failed s
    | p => p
  | .logged _ => p

theorem after_logged (p : Phase) (event : Event) :
    p.after (.logged event) = p ∨
      ∃ s e, p = .ready s ∧ event = .compileFailed e ∧ p.after (.logged event) = .failed s := by
  cases event with
  | compileFailed e => cases p <;> simp [after]
  | _ => exact .inl rfl

def Allows (p : Phase) : Act → Prop
  | .looked _ => p = .free
  | .claimed _ => p = .free
  | .connected _ => p = .keeping
  | .sent s _ _ _ => p = .ready s
  | .discarded s _ => p = .failed s
  | .took _ => p = .closing
  | .released s _ => p = .owing s
  | .logged _ => ∀ s, p ≠ .owing s

/-- A call may end in this phase: it keeps no lock and owes no shutdown. -/
def IsSettled (p : Phase) : Prop := p ≠ .keeping ∧ ∀ s, p ≠ .owing s

def ofOperation : Operation → Phase
  | .connect => .free
  | .execute _ _ => .free
  | .close => .closing

end Phase

namespace Call

variable {α β : Type}

/-- The call does in every phase only what that allows, and ends settled. -/
def Orderly : Phase → Call α → Prop
  | p, .done _ => p.IsSettled
  | p, .look next => p = .free ∧ ∀ found, (next found).Orderly (p.after (.looked found))
  | p, .claim next => p = .free ∧ ∀ found, (next found).Orderly (p.after (.claimed found))
  | p, .handshake _ next =>
    p = .keeping ∧ ∀ outcome, (next outcome).Orderly (p.after (.connected outcome))
  | p, .send s cql params next =>
    p = .ready s ∧ ∀ outcome, (next outcome).Orderly (p.after (.sent s cql params outcome))
  | p, .discard s next =>
    p = .failed s ∧ ∀ held, (next held).Orderly (p.after (.discarded s held))
  | p, .take next => p = .closing ∧ ∀ found, (next found).Orderly (p.after (.took found))
  | p, .shutdown s next =>
    p = .owing s ∧ ∀ outcome, (next outcome).Orderly (p.after (.released s outcome))
  | p, .log event next => (∀ s, p ≠ .owing s) ∧ next.Orderly (p.after (.logged event))

theorem Step.orderly {call rest : Call α} {a : Act} (step : call.Step a rest) {p : Phase}
    (h : call.Orderly p) : p.Allows a ∧ rest.Orderly (p.after a) := by
  cases step with
  | look found => exact ⟨h.1, h.2 found⟩
  | claim found => exact ⟨h.1, h.2 found⟩
  | handshake outcome => exact ⟨h.1, h.2 outcome⟩
  | send outcome => exact ⟨h.1, h.2 outcome⟩
  | discard held => exact ⟨h.1, h.2 held⟩
  | take found => exact ⟨h.1, h.2 found⟩
  | shutdown outcome => exact ⟨h.1, h.2 outcome⟩
  | log => exact h

theorem orderly_bind {call : Call α} {f : α → Call β} {p : Phase} (h : call.Orderly p)
    (hf : ∀ (q : Phase) a, q.IsSettled → (f a).Orderly q) : (call.bind f).Orderly p := by
  induction call generalizing p with
  | done a => exact hf p a h
  | look next ih => exact ⟨h.1, fun found => ih found (h.2 found)⟩
  | claim next ih => exact ⟨h.1, fun found => ih found (h.2 found)⟩
  | handshake config next ih => exact ⟨h.1, fun outcome => ih outcome (h.2 outcome)⟩
  | send s cql params next ih => exact ⟨h.1, fun outcome => ih outcome (h.2 outcome)⟩
  | discard s next ih => exact ⟨h.1, fun held => ih held (h.2 held)⟩
  | take next ih => exact ⟨h.1, fun found => ih found (h.2 found)⟩
  | shutdown s next ih => exact ⟨h.1, fun outcome => ih outcome (h.2 outcome)⟩
  | log event next ih => exact ⟨h.1, ih h.2⟩

theorem orderly_map {call : Call α} {f : α → β} {p : Phase} (h : call.Orderly p) :
    (call.map f).Orderly p :=
  orderly_bind h fun _ _ settled => settled

theorem orderly_logAll {events : List Event} {next : Call α}
    (h : next.Orderly .over) : (logAll events next).Orderly .over := by
  induction events with
  | nil => exact h
  | cons event events ih =>
    refine ⟨by simp, ?_⟩
    have unchanged : Phase.over.after (.logged event) = .over := by cases event <;> rfl
    rw [unchanged]
    exact ih

end Call

/-! ## The operations of a connector -/

namespace Connector

theorem orderly_forceClose (s : Session) : (forceClose s).Orderly (.failed s) := by
  refine ⟨rfl, fun held => ?_⟩
  cases held with
  | false => exact ⟨by simp [Phase.after], by simp [Phase.after]⟩
  | true =>
    refine ⟨rfl, fun outcome => ?_⟩
    cases outcome with
    | ok u => exact ⟨by simp [Phase.after], by simp [Phase.after]⟩
    | error e => exact ⟨by simp [Phase.after], ⟨by simp [Phase.after], by simp [Phase.after]⟩⟩

/-- A failure that was already there, or that the report tells of, entitles to drop the session. -/
theorem orderly_failOn {α : Type} (s : Session) (event : Event) (e : CqlError) {p : Phase}
    (due : ∀ t, p ≠ .owing t) (failed : p.after (.logged event) = .failed s) :
    (failOn s event e : Request α).Orderly p := by
  refine ⟨due, ?_⟩
  rw [failed]
  exact Call.orderly_bind (orderly_forceClose s) fun _ _ settled => settled

theorem orderly_executeOn (s : Session) (cql : String) (params : List Json) :
    (executeOn s cql params).Orderly (.ready s) := by
  refine ⟨by simp, rfl, fun outcome => ?_⟩
  cases outcome with
  | ok response => exact Call.orderly_logAll ⟨by simp, by simp⟩
  | error e => exact orderly_failOn s _ e (by simp [Phase.after]) rfl

theorem orderly_session_andThen {α : Type} (c : Connector) {f : Session → Request α}
    (hf : ∀ s, (f s).Orderly (.ready s)) : (c.session.andThen f).Orderly .free := by
  refine ⟨rfl, fun found => ?_⟩
  cases found with
  | some s => exact hf s
  | none =>
    refine ⟨rfl, fun found => ?_⟩
    cases found with
    | some s => exact hf s
    | none =>
      refine ⟨by simp [Phase.after], rfl, fun outcome => ?_⟩
      cases outcome with
      | ok s => exact ⟨by simp [Phase.after], hf s⟩
      | error e => exact ⟨by simp [Phase.after], by simp [Phase.after], by simp [Phase.after]⟩

theorem orderly_connect (c : Connector) : c.connect.Orderly .free :=
  orderly_session_andThen c fun _ => ⟨by simp, by simp⟩

theorem orderly_execute (c : Connector) (statement : Statement) (params : List Json) :
    (c.execute statement params).Orderly .free := by
  refine orderly_session_andThen c fun s => ?_
  cases c.formatter.render statement with
  | ok cql => exact orderly_executeOn s cql params
  | error e => exact orderly_failOn s _ _ (by simp) rfl

theorem orderly_close (c : Connector) : c.close.Orderly .closing := by
  refine ⟨rfl, fun found => ?_⟩
  cases found with
  | none => exact ⟨by simp [Phase.after], by simp [Phase.after]⟩
  | some s =>
    refine ⟨rfl, fun outcome => ?_⟩
    cases outcome with
    | ok u => exact ⟨by simp [Phase.after], by simp [Phase.after], by simp [Phase.after]⟩
    | error e => exact ⟨by simp [Phase.after], by simp [Phase.after]⟩

end Connector

theorem Operation.orderly (c : Connector) (operation : Operation) :
    (operation.call c).Orderly (.ofOperation operation) := by
  cases operation with
  | connect => exact Call.orderly_map c.orderly_connect
  | execute statement params => exact Call.orderly_map (c.orderly_execute statement params)
  | close => exact Call.orderly_map c.orderly_close

end CqlClient
