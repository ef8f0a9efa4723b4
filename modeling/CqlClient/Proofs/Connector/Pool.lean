import CqlClient.Connector.Basic
import Mathlib.Logic.Relation

/-!
# Calls that run side by side

Any number of calls on one connector, taking their atomic steps in any order. A step is what the
call does next (`Call.Step`) together with what that does to the handle and its lock
(`Shared.Step`); the transport may answer in any way, but every handshake that succeeds gives a
session that was not there before. `Pool.Reachable` collects the states of all interleavings.
-/

namespace CqlClient

/-- One atomic step of a call, with what came of it. -/
inductive Act where
  | looked (found : Option Session)
  | claimed (found : Option Session)
  | connected (outcome : Except CqlError Session)
  | sent (session : Session) (cql : String) (params : List Json)
      (outcome : Except CqlError Response)
  | discarded (session : Session) (held : Bool)
  | took (found : Option Session)
  | released (session : Session) (outcome : Except CqlError Unit)
  | logged (event : Event)

namespace Act

def established? : Act → Option Session
  | .connected (.ok s) => some s
  | _ => none

def released? : Act → Option Session
  | .released s _ => some s
  | _ => none

/-- The session that an act gives its call to work on. -/
def obtained? : Act → Option Session
  | .looked found => found
  | .claimed found => found
  | .connected (.ok s) => some s
  | _ => none

end Act

/-- What a call does next, whatever it finds and is answered. -/
inductive Call.Step {α : Type} : Call α → Act → Call α → Prop where
  | look {next} (found) : Step (.look next) (.looked found) (next found)
  | claim {next} (found) : Step (.claim next) (.claimed found) (next found)
  | handshake {config next} (outcome) :
      Step (.handshake config next) (.connected outcome) (next outcome)
  | send {s cql params next} (outcome) :
      Step (.send s cql params next) (.sent s cql params outcome) (next outcome)
  | discard {s next} (held) : Step (.discard s next) (.discarded s held) (next held)
  | take {next} (found) : Step (.take next) (.took found) (next found)
  | shutdown {s next} (outcome) : Step (.shutdown s next) (.released s outcome) (next outcome)
  | log {event next} : Step (.log event next) (.logged event) next

structure Shared where
  handle : Option Session := none
  /-- The call that keeps the lock over its handshake. -/
  keeper : Option Nat := none

/-- What an act of call `i` finds in the shared state, and how it leaves it. Acts on the handle wait
until no call keeps the lock; the end of a handshake sets the lock free. -/
inductive Shared.Step (i : Nat) : Shared → Act → Shared → Prop where
  | looked {h} : Step i ⟨h, none⟩ (.looked h) ⟨h, none⟩
  | found {s} : Step i ⟨some s, none⟩ (.claimed (some s)) ⟨some s, none⟩
  | claimed : Step i ⟨none, none⟩ (.claimed none) ⟨none, some i⟩
  | connected {w s} : Step i w (.connected (.ok s)) ⟨some s, none⟩
  | refused {w e} : Step i w (.connected (.error e)) ⟨w.handle, none⟩
  | sent {w s cql params outcome} : Step i w (.sent s cql params outcome) w
  | cleared {s} : Step i ⟨some s, none⟩ (.discarded s true) ⟨none, none⟩
  | kept {h s} : h ≠ some s → Step i ⟨h, none⟩ (.discarded s false) ⟨h, none⟩
  | took {h} : Step i ⟨h, none⟩ (.took h) ⟨none, none⟩
  | released {w s outcome} : Step i w (.released s outcome) w
  | logged {w event} : Step i w (.logged event) w

/-- Call `i` takes its next acts while no other call acts. -/
inductive Call.Steps {α : Type} (i : Nat) : Shared → Call α → List Act → Shared → Call α → Prop where
  | refl {w call} : Steps i w call [] w call
  | head {w w' w'' call call' call'' a acts} (own : call.Step a call') (step : w.Step i a w')
      (steps : Steps i w' call' acts w'' call'') : Steps i w call (a :: acts) w'' call''

inductive Operation where
  | connect
  | execute (statement : Statement) (params : List Json)
  | close

def Operation.call (c : Connector) : Operation → Call Unit
  | .connect => Call.map (fun _ => ()) c.connect
  | .execute statement params => Call.map (fun _ => ()) (c.execute statement params)
  | .close => Call.map (fun _ => ()) c.close

structure Running where
  operation : Operation
  rest : Call Unit
  past : List Act := []

namespace Running

def after (r : Running) (a : Act) (rest : Call Unit) : Running :=
  { r with rest, past := r.past ++ [a] }

/-- The session that the call works on, the last that it got. -/
def session? (r : Running) : Option Session := (r.past.filterMap Act.obtained?).getLast?

/-- The session that the call has taken from the handle and is about to hand to shutdown. -/
def owed? (r : Running) : Option Session :=
  match r.rest with
  | .shutdown s _ => some s
  | _ => none

def IsConnecting (r : Running) : Prop := ∃ config next, r.rest = .handshake config next

end Running

/-- All calls on one connector, those that ended included, with what they share. -/
structure Pool where
  shared : Shared := {}
  established : List Session := []
  released : List Session := []
  calls : List Running := []

namespace Pool

abbrev handle (p : Pool) : Option Session := p.shared.handle

def owed (p : Pool) : List Session := p.calls.filterMap Running.owed?

def start (c : Connector) (p : Pool) (operation : Operation) : Pool :=
  { p with calls := p.calls ++ [{ operation, rest := operation.call c }] }

def after (p : Pool) (i : Nat) (a : Act) (r : Running) (shared : Shared) : Pool where
  shared
  established := p.established ++ a.established?.toList
  released := p.released ++ a.released?.toList
  calls := p.calls.set i r

inductive Acts (p : Pool) (i : Nat) (a : Act) : Pool → Prop where
  | intro {r : Running} {rest : Call Unit} {shared : Shared}
      (running : p.calls[i]? = some r) (own : r.rest.Step a rest) (step : p.shared.Step i a shared)
      (fresh : ∀ s, a = .connected (.ok s) → s ∉ p.established) :
      Acts p i a (p.after i a (r.after a rest) shared)

inductive Step (c : Connector) (p : Pool) : Pool → Prop where
  | start (operation : Operation) : Step c p (p.start c operation)
  | act {i : Nat} {a : Act} {q : Pool} (acts : p.Acts i a q) : Step c p q

def Reachable (c : Connector) : Pool → Prop := Relation.ReflTransGen (Step c) {}

theorem Acts.fresh_of_nodup {p : Pool} {a : Act} {acts : List Act}
    (fresh : (p.established ++ (a :: acts).filterMap Act.established?).Nodup) :
    ∀ s, a = .connected (.ok s) → s ∉ p.established := by
  rintro s rfl member
  exact (List.nodup_append.1 fresh).2.2 s member s (by simp [Act.established?]) rfl

theorem Reachable.steps {c : Connector} {p : Pool} (h : Reachable c p) {i : Nat} {r : Running}
    (running : p.calls[i]? = some r) {call : Call Unit} (left : r.rest = call) {acts : List Act}
    {shared : Shared} {rest : Call Unit} (steps : Call.Steps i p.shared call acts shared rest)
    (fresh : (p.established ++ acts.filterMap Act.established?).Nodup) :
    ∃ r' : Running, r'.rest = rest ∧ Reachable c
      { shared
        established := p.established ++ acts.filterMap Act.established?
        released := p.released ++ acts.filterMap Act.released?
        calls := p.calls.set i r' } := by
  generalize start : p.shared = w at steps
  induction steps generalizing p r with
  | refl =>
    subst start
    obtain ⟨lt, same⟩ := List.getElem?_eq_some_iff.1 running
    refine ⟨r, left, ?_⟩
    rw [← same, List.set_getElem_self]
    simpa using h
  | head own step steps ih =>
    rename_i a acts
    subst start left
    have next := h.tail (.act (.intro running own step (Acts.fresh_of_nodup fresh)))
    have established : a.established?.toList ++ acts.filterMap Act.established? =
        (a :: acts).filterMap Act.established? := by
      cases new : a.established? <;> simp [new]
    have released : a.released?.toList ++ acts.filterMap Act.released? =
        (a :: acts).filterMap Act.released? := by
      cases new : a.released? <;> simp [new]
    obtain ⟨r', left, reachable⟩ := ih next
      (List.getElem?_set_self (List.getElem?_eq_some_iff.1 running).1)
      rfl (by rw [after, List.append_assoc, established]; exact fresh) rfl
    refine ⟨r', left, ?_⟩
    simpa only [after, List.append_assoc, established, released, List.set_set] using reachable

end Pool

end CqlClient
