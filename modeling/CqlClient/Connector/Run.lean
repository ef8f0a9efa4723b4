import CqlClient.Connector.Call

/-!
# Running calls

A transport establishes sessions, runs statements on them and gives them up. `Call.run` takes a call
through its steps over a transport, and lists in order what it reported and what it asked for.
-/

namespace CqlClient

structure Reply (α : Type) where
  outcome : Except CqlError α
  log : List TransportEvent := []

structure Transport (τ : Type) where
  connect : Config → τ → Reply Unit × τ
  execute : Session → String → List Json → τ → Reply Response × τ
  shutdown : Session → τ → Reply Unit × τ

structure World (τ : Type) where
  handle : Option Session := none
  established : Nat := 0
  transport : τ

inductive Effect where
  | logged (event : Event)
  | connecting (config : Config)
  | sent (session : Session) (cql : String) (params : List Json)
  | released (session : Session)

structure Outcome (τ α : Type) where
  result : α
  effects : List Effect
  world : World τ

def Reply.effects {α : Type} (r : Reply α) : List Effect :=
  r.log.map fun e => .logged (.transport e)

namespace Outcome

def after {τ α : Type} (earlier : List Effect) (o : Outcome τ α) : Outcome τ α :=
  { o with effects := earlier ++ o.effects }

end Outcome

/--
What other calls do while a statement is in flight: their effects, and the world they leave behind.
-/
abbrev Meanwhile (τ : Type) := World τ → List Effect × World τ

def Meanwhile.nothing {τ : Type} : Meanwhile τ := fun w => ([], w)

def Call.run {τ α : Type} (T : Transport τ) (meanwhile : Meanwhile τ) :
    Call α → World τ → Outcome τ α
  | .done a, w => ⟨a, [], w⟩
  | .look next, w => run T meanwhile (next w.handle) w
  | .claim next, w => run T meanwhile (next w.handle) w
  | .handshake config next, w =>
    let (reply, t) := T.connect config w.transport
    let before := .connecting config :: reply.effects
    match reply.outcome with
    | .ok () =>
      let s : Session := ⟨w.established⟩
      (run T meanwhile (next (.ok s)) ⟨some s, w.established + 1, t⟩).after before
    | .error e => (run T meanwhile (next (.error e)) { w with transport := t }).after before
  | .send s cql params next, w =>
    let (reply, t) := T.execute s cql params w.transport
    let (between, w) := meanwhile { w with transport := t }
    (run T meanwhile (next reply.outcome) w).after
      (.sent s cql params :: between ++ reply.effects)
  | .discard s next, w =>
    if w.handle = some s then run T meanwhile (next true) { w with handle := none }
    else run T meanwhile (next false) w
  | .take next, w => run T meanwhile (next w.handle) { w with handle := none }
  | .shutdown s next, w =>
    let (reply, t) := T.shutdown s w.transport
    (run T meanwhile (next reply.outcome) { w with transport := t }).after
      (.released s :: reply.effects)
  | .log e next, w => (run T meanwhile next w).after [.logged e]

end CqlClient
