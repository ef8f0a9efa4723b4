import CqlClient.Proofs.Connector.Phase
import Mathlib.Data.List.Perm.Basic

/-!
# Where sessions are

Sessions move from a handshake into the handle, from the handle to the one call that empties it,
and from that call to shutdown. `Pool.Inv` is kept by every step of every interleaving;
`accounted_of_reachable` reads off it what holds in every reachable state.
-/

namespace CqlClient

namespace Phase

def owed? : Phase → Option Session
  | .owing s => some s
  | _ => none

/-- What brings a call from a phase into another one. -/
def Enters (p : Phase) (a : Act) : Phase → Prop
  | .free => a = .looked none
  | .keeping => a = .claimed none
  | .ready s => a.obtained? = some s
  | .failed s =>
    (∃ cql params e, a = .sent s cql params (.error e)) ∨
      p = .ready s ∧ ∃ e, a = .logged (.compileFailed e)
  | .closing => False
  | .owing s => a = .discarded s true ∨ a = .took (some s)
  | .over => True

theorem after_cases (p : Phase) (a : Act) : p.after a = p ∨ p.Enters a (p.after a) := by
  cases a with
  | looked found => cases found <;> exact .inr rfl
  | claimed found => cases found <;> exact .inr rfl
  | connected outcome =>
    cases outcome with
    | ok s => exact .inr rfl
    | error e => exact .inr trivial
  | sent s cql params outcome =>
    cases outcome with
    | ok response => exact .inr trivial
    | error e => exact .inr (.inl ⟨cql, params, e, rfl⟩)
  | discarded s held =>
    cases held with
    | true => exact .inr (.inl rfl)
    | false => exact .inr trivial
  | took found =>
    cases found with
    | none => exact .inr trivial
    | some s => exact .inr (.inr rfl)
  | released s outcome => exact .inr trivial
  | logged event =>
    rcases after_logged p event with same | ⟨s, e, rfl, rfl, -⟩
    · exact .inl same
    · exact .inr (.inr ⟨rfl, e, rfl⟩)

theorem enters_of_after {p q : Phase} {a : Act} (h : p.after a = q) : p = q ∨ p.Enters a q := by
  subst h
  exact (after_cases p a).imp_left Eq.symm

/-- The call has no session yet. -/
def IsEarly (p : Phase) : Prop := p = .free ∨ p = .keeping

/-- No act leads back to the time before the call had a session. -/
theorem early_of_after {p : Phase} {a : Act} (allowed : p.Allows a) (h : (p.after a).IsEarly) :
    p.IsEarly := by
  rcases h with h | h
  · rcases enters_of_after h with same | rfl
    · exact .inl same
    · exact .inl allowed
  · rcases enters_of_after h with same | rfl
    · exact .inr same
    · exact .inl allowed

theorem obtained?_of_late {p : Phase} {a : Act} (allowed : p.Allows a) (late : ¬ p.IsEarly) :
    a.obtained? = none := by
  cases a with
  | looked found => exact absurd (.inl allowed) late
  | claimed found => exact absurd (.inl allowed) late
  | connected outcome => exact absurd (.inr allowed) late
  | _ => rfl

/-- A session that a call works on is the one it got, or the one it worked on before. -/
theorem works_of_after {p : Phase} {a : Act} {s : Session} (allowed : p.Allows a)
    (h : p.after a = .ready s ∨ p.after a = .failed s) :
    a.obtained? = some s ∨ a.obtained? = none ∧ (p = .ready s ∨ p = .failed s) := by
  rcases h with h | h
  · rcases enters_of_after h with rfl | obtained
    · exact .inr ⟨obtained?_of_late allowed (by simp [IsEarly]), .inl rfl⟩
    · exact .inl obtained
  · rcases enters_of_after h with rfl | ⟨cql, params, e, rfl⟩ | ⟨rfl, e, rfl⟩
    · exact .inr ⟨obtained?_of_late allowed (by simp [IsEarly]), .inr rfl⟩
    · exact .inr ⟨rfl, .inl allowed⟩
    · exact .inr ⟨rfl, .inl rfl⟩

end Phase

namespace Running

def phase (r : Running) : Phase := r.past.foldl Phase.after (.ofOperation r.operation)

/-- The statement of the call failed: its session answered with an error, or it did not compile. -/
def HasFailed (r : Running) : Prop :=
  (∃ s cql params e, Act.sent s cql params (.error e) ∈ r.past) ∨
    ∃ e, Act.logged (.compileFailed e) ∈ r.past

/-- The call works on this session, and any statement of it was sent there. -/
def RanOn (r : Running) (s : Session) : Prop :=
  r.session? = some s ∧ ∀ t cql params outcome, Act.sent t cql params outcome ∈ r.past → t = s

/-- What is known of a call from its acts alone. -/
structure Lawful (r : Running) : Prop where
  orderly : r.rest.Orderly r.phase
  session : ∀ s, r.phase = .ready s ∨ r.phase = .failed s → r.session? = some s
  unsent : r.phase.IsEarly → ∀ s cql params outcome, Act.sent s cql params outcome ∉ r.past
  sent : ∀ s cql params outcome, Act.sent s cql params outcome ∈ r.past → r.session? = some s
  failed : ∀ s, r.phase = .failed s → r.HasFailed
  closing : r.phase = .closing → r.operation = .close

@[simp] theorem phase_after (r : Running) (a : Act) (rest : Call Unit) :
    (r.after a rest).phase = r.phase.after a := by
  simp [phase, after]

theorem session?_after (r : Running) (a : Act) (rest : Call Unit) :
    (r.after a rest).session? = a.obtained?.or r.session? := by
  cases h : a.obtained? <;> simp [session?, after, h]

theorem HasFailed.after {r : Running} (h : r.HasFailed) (a : Act) (rest : Call Unit) :
    (r.after a rest).HasFailed := by
  rcases h with ⟨s, cql, params, e, member⟩ | ⟨e, member⟩
  · exact .inl ⟨s, cql, params, e, List.mem_append_left _ member⟩
  · exact .inr ⟨e, List.mem_append_left _ member⟩

theorem Lawful.after {r : Running} {a : Act} {rest : Call Unit} (h : r.Lawful)
    (step : r.rest.Step a rest) : (r.after a rest).Lawful := by
  obtain ⟨allowed, orderly⟩ := step.orderly h.orderly
  have past : (r.after a rest).past = r.past ++ [a] := rfl
  constructor
  · rw [phase_after]
    exact orderly
  · intro s hs
    rw [phase_after] at hs
    rw [session?_after]
    rcases Phase.works_of_after allowed hs with obtained | ⟨none_new, before⟩
    · rw [obtained]
      rfl
    · rw [none_new]
      exact h.session s before
  · intro hp s cql params outcome member
    rw [phase_after] at hp
    rw [past, List.mem_append, List.mem_singleton] at member
    rcases member with member | rfl
    · exact h.unsent (Phase.early_of_after allowed hp) s cql params outcome member
    · cases outcome <;> simp [Phase.after, Phase.IsEarly] at hp
  · intro s cql params outcome member
    rw [past, List.mem_append, List.mem_singleton] at member
    rw [session?_after]
    rcases member with member | rfl
    · have late := fun early => h.unsent early s cql params outcome member
      rw [Phase.obtained?_of_late allowed late]
      exact h.sent s cql params outcome member
    · exact h.session s (.inl allowed)
  · intro s hs
    rw [phase_after] at hs
    rcases Phase.enters_of_after hs with failed | ⟨cql, params, e, rfl⟩ | ⟨-, e, rfl⟩
    · exact (h.failed s failed).after a rest
    · exact .inl ⟨s, cql, params, e, by simp [past]⟩
    · exact .inr ⟨e, by simp [past]⟩
  · intro hc
    rw [phase_after] at hc
    rcases Phase.enters_of_after hc with closing | never
    · exact h.closing closing
    · cases never

theorem Lawful.owed?_eq {r : Running} (h : r.Lawful) : r.owed? = r.phase.owed? := by
  have orderly := h.orderly
  unfold owed?
  cases rest : r.rest with
  | shutdown s next =>
    rw [rest] at orderly
    rw [orderly.1]
    rfl
  | done a =>
    rw [rest] at orderly
    cases phase : r.phase with
    | owing s => exact absurd phase (orderly.2 s)
    | _ => rfl
  | log event next =>
    rw [rest] at orderly
    cases phase : r.phase with
    | owing s => exact absurd phase (orderly.1 s)
    | _ => rfl
  | _ =>
    rw [rest] at orderly
    rw [orderly.1]
    rfl

theorem Lawful.keeping {r : Running} (h : r.Lawful) (connecting : r.IsConnecting) :
    r.phase = .keeping := by
  obtain ⟨config, next, rest⟩ := connecting
  have orderly := h.orderly
  rw [rest] at orderly
  exact orderly.1

theorem lawful_start (c : Connector) (operation : Operation) :
    Lawful { operation, rest := operation.call c } := by
  constructor
  · exact operation.orderly c
  · cases operation <;> simp [phase, Phase.ofOperation]
  · simp
  · simp
  · cases operation <;> simp [phase, Phase.ofOperation]
  · cases operation <;> simp [phase, Phase.ofOperation]

end Running

/-! ## One step of the shared state -/

namespace Shared.Step

variable {i : Nat} {w w' : Shared} {a : Act} {p : Phase}

theorem keeper_iff (step : w.Step i a w') (allowed : p.Allows a)
    (h : w.keeper = some i ↔ p = .keeping) : w'.keeper = some i ↔ p.after a = .keeping := by
  cases step with
  | logged =>
    rename_i event
    rcases Phase.after_logged p event with same | ⟨s, e, rfl, rfl, -⟩
    · rwa [same]
    · simpa [Phase.after] using h
  | looked => rename_i found; cases found <;> simp [Phase.after]
  | took => rename_i found; cases found <;> simp [Phase.after]
  | sent =>
    rename_i outcome
    rw [h, show p = _ from allowed]
    cases outcome <;> simp [Phase.after]
  | released =>
    rw [h, show p = _ from allowed]
    simp [Phase.after]
  | _ => simp [Phase.after]

theorem keeper_other (step : w.Step i a w') (allowed : p.Allows a)
    (h : w.keeper = some i ↔ p = .keeping) {j : Nat} (other : j ≠ i) :
    w'.keeper = some j ↔ w.keeper = some j := by
  cases step with
  | claimed => simp [other.symm]
  | connected => simp [h.2 allowed, other.symm]
  | refused => simp [h.2 allowed, other.symm]
  | _ => rfl

theorem vacant (step : w.Step i a w') (h : w.keeper ≠ none → w.handle = none) :
    w'.keeper ≠ none → w'.handle = none := by
  cases step <;> simp_all

/-- What comes in goes out: the handle, what the call owes, and what it hands to shutdown. -/
theorem flow (step : w.Step i a w') (allowed : p.Allows a)
    (h : w.keeper = some i ↔ p = .keeping) (vacant : w.keeper ≠ none → w.handle = none) :
    (a.established?.toList ++ w.handle.toList ++ p.owed?.toList).Perm
      (w'.handle.toList ++ (p.after a).owed?.toList ++ a.released?.toList) := by
  cases step with
  | connected =>
    have empty : w.handle = none := vacant (by simp [h.2 allowed])
    rw [empty, show p = _ from allowed]
    exact .refl _
  | refused =>
    rw [show p = _ from allowed]
    simp [Phase.after, Phase.owed?, Act.established?, Act.released?]
  | logged =>
    rename_i event
    rcases Phase.after_logged p event with same | ⟨s, e, rfl, rfl, -⟩
    · rw [same]
      simp [Act.established?, Act.released?]
    · simp [Phase.after, Phase.owed?, Act.established?, Act.released?]
  | looked =>
    rename_i found
    rw [show p = _ from allowed]
    cases found <;> exact .refl _
  | took =>
    rename_i found
    rw [show p = _ from allowed]
    cases found <;> exact .refl _
  | sent =>
    rename_i outcome
    rw [show p = _ from allowed]
    cases outcome <;> simp [Phase.after, Phase.owed?, Act.established?, Act.released?]
  | _ =>
    rw [show p = _ from allowed]
    simp [Phase.after, Phase.owed?, Act.established?, Act.released?]

end Shared.Step

/-! ## The invariant of all interleavings -/

namespace Pool

/-- Each call is lawful, the lock is kept by the call in the phase for it while the handle is
empty, and every established session is in one place. -/
structure Inv (p : Pool) : Prop where
  lawful : ∀ r ∈ p.calls, r.Lawful
  keeper : ∀ i r, p.calls[i]? = some r → (p.shared.keeper = some i ↔ r.phase = .keeping)
  keeper_lt : ∀ i, p.shared.keeper = some i → i < p.calls.length
  vacant : p.shared.keeper ≠ none → p.handle = none
  nodup : p.established.Nodup
  balanced : p.established.Perm (p.handle.toList ++ p.owed ++ p.released)

theorem inv_empty : Inv {} := by
  constructor <;> simp [owed]

theorem Inv.start {p : Pool} (h : p.Inv) (c : Connector) (operation : Operation) :
    (p.start c operation).Inv where
  lawful r member := by
    rw [Pool.start, List.mem_append, List.mem_singleton] at member
    rcases member with member | rfl
    · exact h.lawful r member
    · exact Running.lawful_start c operation
  keeper i r found := by
    simp only [Pool.start] at found ⊢
    rcases Nat.lt_or_ge i p.calls.length with lt | ge
    · rw [List.getElem?_append_left lt] at found
      exact h.keeper i r found
    · obtain ⟨rfl, rfl⟩ : i = p.calls.length ∧
          r = { operation, rest := operation.call c } := by
        rw [List.getElem?_append_right ge, List.getElem?_singleton] at found
        split at found
        · exact ⟨by omega, by simpa using found.symm⟩
        · cases found
      constructor
      · intro kept
        exact absurd (h.keeper_lt _ kept) (Nat.lt_irrefl _)
      · cases operation <;> simp [Running.phase, Phase.ofOperation]
  keeper_lt i kept := by
    have := h.keeper_lt i kept
    simp [Pool.start]
    omega
  vacant := h.vacant
  nodup := h.nodup
  balanced := by
    have none_owed : Running.owed? { operation, rest := operation.call c } = none := by
      rw [(Running.lawful_start c operation).owed?_eq]
      cases operation <;> rfl
    simpa [Pool.start, owed, none_owed] using h.balanced

theorem owed_set {calls : List Running} {i : Nat} {r : Running} (found : calls[i]? = some r) :
    ∃ others : List Session, (calls.filterMap Running.owed?).Perm (r.owed?.toList ++ others) ∧
      ∀ r', ((calls.set i r').filterMap Running.owed?).Perm (r'.owed?.toList ++ others) := by
  obtain ⟨lt, rfl⟩ := List.getElem?_eq_some_iff.1 found
  have cons (r : Running) : ((r :: calls.eraseIdx i).filterMap Running.owed?) =
      r.owed?.toList ++ (calls.eraseIdx i).filterMap Running.owed? := by
    cases h : r.owed? <;> simp [h]
  refine ⟨(calls.eraseIdx i).filterMap Running.owed?, ?_, fun r' => ?_⟩
  · rw [← cons]
    exact (List.getElem_cons_eraseIdx_perm lt).symm.filterMap _
  · rw [← cons]
    exact (List.set_perm_cons_eraseIdx lt r').filterMap _

theorem Inv.acts {p q : Pool} {i : Nat} {a : Act} (h : p.Inv) (acts : p.Acts i a q) : q.Inv := by
  obtain ⟨found, own, step, fresh⟩ := acts
  rename_i r rest shared
  have lawful := h.lawful r (List.mem_of_getElem? found)
  have lawful' := lawful.after own
  obtain ⟨allowed, -⟩ := own.orderly lawful.orderly
  have keeper := h.keeper i r found
  constructor
  · intro r' member
    rcases List.mem_or_eq_of_mem_set member with member | rfl
    · exact h.lawful r' member
    · exact lawful'
  · intro j r' found'
    by_cases same : j = i
    · subst same
      obtain rfl : r.after a rest = r' := by
        simpa [after, (List.getElem?_eq_some_iff.1 found).1] using found'
      rw [Running.phase_after]
      exact step.keeper_iff allowed keeper
    · rw [after, List.getElem?_set_ne (Ne.symm same)] at found'
      exact (step.keeper_other allowed keeper same).trans (h.keeper j r' found')
  · intro j kept
    rw [after, List.length_set]
    by_cases same : j = i
    · exact same ▸ (List.getElem?_eq_some_iff.1 found).1
    · exact h.keeper_lt j ((step.keeper_other allowed keeper same).1 kept)
  · exact step.vacant h.vacant
  · rw [after]
    cases new : a.established? with
    | none => simpa using h.nodup
    | some s =>
      have absent : s ∉ p.established := by
        cases a with
        | connected outcome => cases outcome <;> simp_all [Act.established?]
        | _ => simp [Act.established?] at new
      simpa [List.nodup_append, h.nodup] using fun t member (eq : t = s) => absent (eq ▸ member)
  · have flow := step.flow allowed keeper h.vacant
    obtain ⟨others, before, afterwards⟩ := owed_set found
    have now := afterwards (r.after a rest)
    rw [lawful.owed?_eq] at before
    rw [lawful'.owed?_eq, Running.phase_after] at now
    have balanced := h.balanced
    simp only [List.perm_iff_count, after, owed, List.count_append] at flow before now balanced ⊢
    intro s
    have := flow s
    have := before s
    have := now s
    have := balanced s
    simp only [handle] at *
    omega

theorem Inv.step {c : Connector} {p q : Pool} (h : p.Inv) (step : Step c p q) : q.Inv := by
  cases step with
  | start operation => exact h.start c operation
  | act acts => exact h.acts acts

theorem Reachable.inv {c : Connector} {p : Pool} (h : Reachable c p) : p.Inv := by
  induction h with
  | refl => exact inv_empty
  | tail _ step ih => exact ih.step step

/-! ## What holds in every reachable state -/

structure Accounted (p : Pool) : Prop where
  /-- A handshake is under way only while no session is held, and only one at a time. -/
  connecting : ∀ (i : Nat) (r : Running), p.calls[i]? = some r → r.IsConnecting →
    p.handle = none ∧
      ∀ (j : Nat) (r' : Running), p.calls[j]? = some r' → r'.IsConnecting → j = i
  /-- No session is handed to shutdown twice, and the one in the handle not even once. -/
  released_once : p.released.Nodup ∧ ∀ s, p.handle = some s → s ∉ p.released
  /-- A call with a statement takes a session out of the handle only by a forced close, after the
  statement failed, and only the very session that the statement ran on. -/
  cleared : ∀ (i : Nat) (r : Running) a q statement params s, p.calls[i]? = some r →
    r.operation = .execute statement params → p.Acts i a q → p.handle = some s →
    q.handle ≠ some s → a = .discarded s true ∧ r.HasFailed ∧ r.RanOn s
  /-- Every session established is in the handle, or was handed to shutdown, or is owed to it by
  one call, and only one of these. -/
  placed : ∀ s, (s ∈ p.established ↔ p.handle = some s ∨ s ∈ p.owed ∨ s ∈ p.released) ∧
    (s ∈ p.owed → p.handle ≠ some s ∧ s ∉ p.released)
  owed_once : p.owed.Nodup
  /-- Once all calls have ended, no session is left but the one in the handle. -/
  ended : (∀ r ∈ p.calls, ∃ u, r.rest = .done u) →
    ∀ s ∈ p.established, p.handle = some s ∨ s ∈ p.released

theorem Inv.cleared {p q : Pool} {i : Nat} {r : Running} {a : Act} {s : Session} (h : p.Inv)
    (found : p.calls[i]? = some r) (acts : p.Acts i a q) (executes : r.operation ≠ .close)
    (held : p.handle = some s) (gone : q.handle ≠ some s) :
    a = .discarded s true ∧ r.HasFailed ∧ r.RanOn s := by
  obtain ⟨found', own, step, -⟩ := acts
  obtain rfl := Option.some.inj (found.symm.trans found')
  have lawful := h.lawful r (List.mem_of_getElem? found)
  obtain ⟨allowed, -⟩ := own.orderly lawful.orderly
  have handle : p.shared.handle = some s := held
  cases w : p.shared with
  | mk handle' keeper =>
    rw [w] at step handle
    cases step with
    | cleared =>
      obtain rfl := Option.some.inj handle
      refine ⟨rfl, lawful.failed _ allowed, lawful.session _ (.inr allowed), ?_⟩
      intro t cql params outcome member
      have sent := lawful.sent t cql params outcome member
      rw [lawful.session _ (.inr allowed)] at sent
      exact (Option.some.inj sent).symm
    | connected =>
      have vacant := h.vacant (by simp [(h.keeper i r found).2 allowed])
      rw [held] at vacant
      cases vacant
    | took => exact absurd (lawful.closing allowed) executes
    | _ => exact absurd handle gone

theorem Inv.accounted {p : Pool} (h : p.Inv) : p.Accounted := by
  have nodup := h.balanced.nodup_iff.1 h.nodup
  rw [List.nodup_append, List.nodup_append] at nodup
  obtain ⟨⟨-, owed_nodup, handle_owed⟩, released_nodup, apart⟩ := nodup
  have place (s : Session) :
      s ∈ p.established ↔ p.handle = some s ∨ s ∈ p.owed ∨ s ∈ p.released := by
    rw [h.balanced.mem_iff]
    simp
  constructor
  · intro i r found connecting
    have kept := (h.keeper i r found).2
      ((h.lawful r (List.mem_of_getElem? found)).keeping connecting)
    refine ⟨h.vacant (by simp [kept]), fun j r' found' connecting' => ?_⟩
    have kept' := (h.keeper j r' found').2
      ((h.lawful r' (List.mem_of_getElem? found')).keeping connecting')
    exact Option.some.inj (kept'.symm.trans kept)
  · refine ⟨released_nodup, fun s held member => ?_⟩
    exact apart s (by simp [held]) s member rfl
  · intro i r a q statement params s found executes acts held gone
    exact h.cleared found acts (by simp [executes]) held gone
  · intro s
    refine ⟨place s, fun owed => ⟨fun held => ?_, fun released => ?_⟩⟩
    · exact handle_owed s (by simp [held]) s owed rfl
    · exact apart s (List.mem_append_right _ owed) s released rfl
  · exact owed_nodup
  · intro all_done s established
    rcases (place s).1 established with held | owed | released
    · exact .inl held
    · obtain ⟨r, member, owes⟩ := List.mem_filterMap.1 owed
      obtain ⟨u, done⟩ := all_done r member
      simp [Running.owed?, done] at owes
    · exact .inr released

/-- In every state that any interleaving of connects, statements and closes leads to, whatever the
transport answers, the books on sessions balance. -/
theorem accounted_of_reachable {c : Connector} {p : Pool} (h : Reachable c p) : p.Accounted :=
  h.inv.accounted

/-- A statement is under way on session 0 while another caller closes the connector and a third one
opens it again. The statement fails, and session 1 stays. -/
theorem failed_statement_keeps_reopened_session :
    ∃ p, Reachable { config := .standard } p ∧ p.established = [⟨0⟩, ⟨1⟩] ∧ p.released = [⟨0⟩] ∧
      p.handle = some ⟨1⟩ ∧ p.Accounted := by
  have h : Reachable { config := .standard } _ :=
    ((Relation.ReflTransGen.refl.tail (.start (.execute (.text "q") []))).tail
      (.start .close)).tail (.start .connect)
  obtain ⟨r, left, h⟩ := h.steps (i := 0) rfl rfl (.head (.look none) .looked <|
    .head (.claim none) .claimed <| .head .log .logged <|
    .head (.handshake (.ok ⟨0⟩)) .connected .refl) (by simp [start, List.filterMap, Act.established?])
  obtain ⟨u, -, h⟩ := h.steps (i := 1) rfl rfl (.head (.take (some ⟨0⟩)) .took <|
    .head (.shutdown (.ok ())) .released .refl) (by simp [start, List.filterMap, Act.established?])
  obtain ⟨x, -, h⟩ := h.steps (i := 2) rfl rfl (.head (.look none) .looked <|
    .head (.claim none) .claimed <| .head .log .logged <|
    .head (.handshake (.ok ⟨1⟩)) .connected .refl) (by simp [start, List.filterMap, Act.established?])
  obtain ⟨r', -, h⟩ := h.steps (i := 0) rfl left (.head .log .logged <| .head .log .logged <|
    .head (.send (.error (.transport "Timeout"))) .sent <| .head .log .logged <|
    .head (.discard false) (.kept (by decide)) .refl) (by simp [start, List.filterMap, Act.established?])
  exact ⟨_, h, rfl, rfl, rfl, accounted_of_reachable h⟩

end Pool

end CqlClient
