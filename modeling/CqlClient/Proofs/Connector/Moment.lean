import CqlClient.Proofs.Connector.Request

/-!
# What happens in a run

A run lists what it reported and what it asked for. A `Contact` is what it asked for together with
what the transport came back with; as that is determined by the state of the transport, the moments
of a run can be told from its effects, `Call.moments`. What the transport itself reports is no
moment of the connector's.
-/

namespace CqlClient

variable {τ α β : Type}

inductive Contact where
  | connected (config : Config) (outcome : Except CqlError Unit)
  | answered (s : Session) (cql : String) (params : List Json) (outcome : Except CqlError Response)
  | released (s : Session) (outcome : Except CqlError Unit)

inductive Moment where
  | logged (event : Event)
  | contacted (x : Contact)

/-- The connector reports it, not its transport. -/
def Event.isOwn : Event → Bool
  | .transport _ => false
  | _ => true

namespace Transport

variable (T : Transport τ)

/-- The state of the transport after an effect. -/
def next (t : τ) : Effect → τ
  | .logged _ => t
  | .connecting config => (T.connect config t).2
  | .sent s cql params => (T.execute s cql params t).2
  | .released s => (T.shutdown s t).2

def moment? (t : τ) : Effect → Option Moment
  | .logged event => if event.isOwn then some (.logged event) else none
  | .connecting config => some (.contacted (.connected config (T.connect config t).1.outcome))
  | .sent s cql params =>
    some (.contacted (.answered s cql params (T.execute s cql params t).1.outcome))
  | .released s => some (.contacted (.released s (T.shutdown s t).1.outcome))

/-- The moments of effects, from a state of the transport on. -/
def moments : τ → List Effect → List Moment
  | _, [] => []
  | t, e :: rest => (T.moment? t e).toList ++ moments (T.next t e) rest

theorem moments_append (t : τ) (es es' : List Effect) :
    T.moments t (es ++ es') = T.moments t es ++ T.moments (es.foldl T.next t) es' := by
  induction es generalizing t with
  | nil => rfl
  | cons e es ih => rw [List.cons_append, moments, ih, moments, List.append_assoc, List.foldl_cons]

theorem next_reported (t : τ) (r : Reply α) : r.effects.foldl T.next t = t := by
  rw [Reply.effects, List.foldl_map]
  exact List.foldl_fixed' (fun _ => rfl) r.log

end Transport

namespace Call

variable (T : Transport τ)

def moments (call : Call α) (w : World τ) : List Moment :=
  T.moments w.transport (call.run T .nothing w).effects

/-- The effects of a run lead the transport into the state that it is left in. -/
theorem next_run (call : Call α) (w : World τ) :
    (call.run T .nothing w).effects.foldl T.next w.transport =
      (call.run T .nothing w).world.transport := by
  induction call generalizing w with
  | done a => rfl
  | look next ih => exact ih w.handle w
  | claim next ih => exact ih w.handle w
  | take next ih => exact ih w.handle { w with handle := none }
  | log event next ih => exact ih w
  | discard s next ih =>
    rw [run]
    split
    · exact ih true { w with handle := none }
    · exact ih false w
  | handshake config next ih =>
    simp only [run]
    cases (T.connect config w.transport).1.outcome with
    | ok u =>
      simp only [Outcome.after, List.cons_append, List.foldl_cons, List.foldl_append,
        T.next_reported]
      exact ih (.ok _) ⟨_, _, (T.connect config w.transport).2⟩
    | error e =>
      simp only [Outcome.after, List.cons_append, List.foldl_cons, List.foldl_append,
        T.next_reported]
      exact ih (.error e) { w with transport := (T.connect config w.transport).2 }
  | send s cql params next ih =>
    simp only [run, Meanwhile.nothing, Outcome.after, List.cons_append, List.nil_append,
      List.foldl_cons, List.foldl_append, T.next_reported]
    exact ih _ { w with transport := (T.execute s cql params w.transport).2 }
  | shutdown s next ih =>
    simp only [run, Outcome.after, List.cons_append, List.foldl_cons, List.foldl_append,
      T.next_reported]
    exact ih _ { w with transport := (T.shutdown s w.transport).2 }

/-! ## Step by step -/

variable (w : World τ)

theorem moments_log {event : Event} (own : event.isOwn) (call : Call α) :
    (log event call).moments T w = .logged event :: call.moments T w := by
  simp only [moments, run, Outcome.after, List.cons_append, List.nil_append, Transport.moments,
    Transport.moment?, if_pos own, Option.toList_some]
  rfl

theorem moments_bind (call : Call α) (k : α → Call β) :
    (call.bind k).moments T w =
      call.moments T w ++
        (k (call.run T .nothing w).result).moments T (call.run T .nothing w).world := by
  rw [moments, run_bind, Outcome.after, Transport.moments_append, next_run]
  rfl

end Call

end CqlClient
