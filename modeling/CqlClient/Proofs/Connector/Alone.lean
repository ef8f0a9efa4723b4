import CqlClient.Connector.Run
import CqlClient.Proofs.Connector.Phase
import Mathlib.Data.List.Nodup

/-!
# Calls one after another

`Call.run` takes a call through its steps over one transport. `Call.run_steps` shows that these are
steps that the call may take among others, with the transport's answers for outcomes, and
`Pool.Mirrors.run` that calls run one after another are one of the interleavings.
-/

namespace CqlClient

/-- The shared state of a world in which call `i` stands in a phase and no other call is under way. -/
def World.shared {τ : Type} (w : World τ) (i : Nat) (p : Phase) : Shared where
  handle := w.handle
  keeper := if p = .keeping then some i else none

variable {τ α : Type} (T : Transport τ) (i : Nat)

/-- An orderly call that is run alone takes steps of its own up to its result, and the sessions
established on the way are new ones. -/
theorem Call.run_steps (call : Call α) (p : Phase) (w : World τ) (h : call.Orderly p) :
    ∃ acts n, Steps i (w.shared i p) call acts
        ⟨(call.run T .nothing w).world.handle, none⟩ (.done (call.run T .nothing w).result) ∧
      (acts.filterMap Act.established?).map Session.id = List.range' w.established n ∧
      (call.run T .nothing w).world.established = w.established + n := by
  induction call generalizing p w with
  | done a =>
    have settled : p ≠ .keeping := h.1
    exact ⟨[], 0, by simpa [World.shared, settled, run] using Steps.refl, rfl, rfl⟩
  | look next ih =>
    obtain ⟨rfl, h⟩ := h
    obtain ⟨acts, n, steps, fresh, total⟩ := ih w.handle _ w (h w.handle)
    rw [run]
    refine ⟨.looked w.handle :: acts, n, .head (.look w.handle) .looked ?_, fresh, total⟩
    cases found : w.handle <;> simpa [World.shared, Phase.after, found] using steps
  | claim next ih =>
    obtain ⟨rfl, h⟩ := h
    obtain ⟨acts, n, steps, fresh, total⟩ := ih w.handle _ w (h w.handle)
    rw [run]
    refine ⟨.claimed w.handle :: acts, n, ?_, fresh, total⟩
    cases found : w.handle with
    | none =>
      rw [found] at steps
      have step : (w.shared i .free).Step i (.claimed none) (w.shared i .keeping) := by
        simpa [World.shared, found] using Shared.Step.claimed
      exact .head (.claim none) step steps
    | some s =>
      rw [found] at steps
      have step : (w.shared i .free).Step i (.claimed (some s)) (w.shared i (.ready s)) := by
        simpa [World.shared, found] using Shared.Step.found
      exact .head (.claim (some s)) step steps
  | handshake config next ih =>
    obtain ⟨rfl, h⟩ := h
    rw [run]
    cases answer : T.connect config w.transport with
    | mk reply t =>
      cases outcome : reply.outcome with
      | ok u =>
        obtain ⟨acts, n, steps, fresh, total⟩ := ih (.ok ⟨w.established⟩) (.ready ⟨w.established⟩)
          ⟨some ⟨w.established⟩, w.established + 1, t⟩ (h (.ok ⟨w.established⟩))
        simp only [outcome, Outcome.after]
        refine ⟨.connected (.ok ⟨w.established⟩) :: acts, n + 1,
          .head (.handshake (.ok ⟨w.established⟩)) .connected steps, ?_, ?_⟩
        · rw [List.range'_succ, ← fresh]
          rfl
        · simp only [total]
          omega
      | error e =>
        obtain ⟨acts, n, steps, fresh, total⟩ :=
          ih (.error e) .over { w with transport := t } (h (.error e))
        simp only [outcome, Outcome.after]
        exact ⟨.connected (.error e) :: acts, n, .head (.handshake (.error e)) .refused steps, fresh,
          total⟩
  | send s cql params next ih =>
    obtain ⟨rfl, h⟩ := h
    rw [run]
    cases answer : T.execute s cql params w.transport with
    | mk reply t =>
      obtain ⟨acts, n, steps, fresh, total⟩ :=
        ih reply.outcome _ { w with transport := t } (h reply.outcome)
      simp only [Meanwhile.nothing, Outcome.after]
      refine ⟨.sent s cql params reply.outcome :: acts, n, .head (.send reply.outcome) .sent ?_, fresh,
        total⟩
      cases outcome : reply.outcome <;> simpa [World.shared, Phase.after, outcome] using steps
  | discard s next ih =>
    obtain ⟨rfl, h⟩ := h
    rw [run]
    split
    · rename_i held
      obtain ⟨acts, n, steps, fresh, total⟩ := ih true _ { w with handle := none } (h true)
      refine ⟨.discarded s true :: acts, n, .head (.discard true) ?_ steps, fresh, total⟩
      simpa [World.shared, held, Phase.after] using Shared.Step.cleared
    · rename_i other
      obtain ⟨acts, n, steps, fresh, total⟩ := ih false _ w (h false)
      refine ⟨.discarded s false :: acts, n, .head (.discard false) ?_ steps, fresh, total⟩
      simpa [World.shared, Phase.after] using Shared.Step.kept other
  | take next ih =>
    obtain ⟨rfl, h⟩ := h
    obtain ⟨acts, n, steps, fresh, total⟩ := ih w.handle _ { w with handle := none } (h w.handle)
    rw [run]
    refine ⟨.took w.handle :: acts, n, .head (.take w.handle) .took ?_, fresh, total⟩
    cases found : w.handle <;> simpa [World.shared, Phase.after, found] using steps
  | shutdown s next ih =>
    obtain ⟨rfl, h⟩ := h
    rw [run]
    cases answer : T.shutdown s w.transport with
    | mk reply t =>
      obtain ⟨acts, n, steps, fresh, total⟩ :=
        ih reply.outcome .over { w with transport := t } (h reply.outcome)
      exact ⟨.released s reply.outcome :: acts, n, .head (.shutdown reply.outcome) .released steps,
        fresh, total⟩
  | log event next ih =>
    obtain ⟨acts, n, steps, fresh, total⟩ := ih _ w h.2
    have same : w.shared i (p.after (.logged event)) = w.shared i p := by
      rcases Phase.after_logged p event with same | ⟨s, e, rfl, rfl, failed⟩
      · rw [same]
      · simp [World.shared, Phase.after]
    rw [same] at steps
    exact ⟨.logged event :: acts, n, .head .log .logged steps, fresh, total⟩

/-- No call is under way in the pool, and its handle and sessions are those of the world. -/
structure Pool.Mirrors (p : Pool) (w : World τ) : Prop where
  shared : p.shared = ⟨w.handle, none⟩
  established : p.established = (List.range w.established).map Session.mk

theorem Pool.mirrors_empty (t : τ) : Pool.Mirrors {} { transport := t : World τ } := ⟨rfl, rfl⟩

/-- Whatever world calls run one after another lead to, an interleaving leads there too. -/
theorem Pool.Mirrors.run {c : Connector} {p : Pool} {w : World τ} (h : p.Mirrors w)
    (reachable : Reachable c p) (operation : Operation) :
    ∃ q, Reachable c q ∧ q.Mirrors ((operation.call c).run T .nothing w).world := by
  have started := reachable.tail (.start operation)
  have found : (p.start c operation).calls[p.calls.length]? =
      some { operation, rest := operation.call c } := by
    simp [Pool.start]
  have free : Phase.ofOperation operation ≠ .keeping := by
    cases operation <;> simp [Phase.ofOperation]
  obtain ⟨acts, n, steps, fresh, total⟩ :=
    Call.run_steps T p.calls.length (operation.call c) _ w (operation.orderly c)
  rw [World.shared, if_neg free, ← h.shared] at steps
  have sessions : acts.filterMap Act.established? =
      (List.range' w.established n).map Session.mk := by
    rw [← fresh, List.map_map]
    exact (List.map_id _).symm
  have all : p.established ++ acts.filterMap Act.established? =
      (List.range (w.established + n)).map Session.mk := by
    rw [h.established, sessions, ← List.map_append, List.range_eq_range', List.range_eq_range',
      ← List.range'_append_1, Nat.zero_add]
  obtain ⟨r, -, reached⟩ := Reachable.steps started found rfl steps (by
    change (p.established ++ acts.filterMap Act.established?).Nodup
    rw [all]
    exact List.Nodup.map (fun a b same => Session.mk.inj same) List.nodup_range)
  exact ⟨_, reached, rfl, by rw [total]; exact all⟩

end CqlClient
