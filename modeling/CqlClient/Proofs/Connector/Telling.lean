import CqlClient.Proofs.Connector.Course

/-!
# The log of requests

A request tells what happens when its log places each event at its contact and its contacts run
their course. A request that goes on finds the connector open if there was a session at all, so that
requests which tell can be made one after another.
-/

namespace CqlClient

variable {τ α β : Type}

/-- A request that forces sessions to be given up, and tells what happens. -/
structure Request.Tells (T : Transport τ) (r : Request α) (w : World τ) : Prop where
  placed : Placed .forced (r.moments T w)
  failed : ∀ e, (r.run T .nothing w).result = .error e → Course .forced (contacts (r.moments T w))
  succeeds : ∀ a, (r.run T .nothing w).result = .ok a →
    ∀ x ∈ contacts (r.moments T w), x.Succeeds
  /-- Whoever goes on finds the connector open, if there was a session at all. -/
  opens : ∀ a, (r.run T .nothing w).result = .ok a →
    w.handle.isSome ∨ contacts (r.moments T w) ≠ [] → (r.run T .nothing w).world.handle.isSome
  keeps : w.handle.isSome → ∀ config outcome,
    .connected config outcome ∉ contacts (r.moments T w)

namespace Call

variable (T : Transport τ) (w : World τ)

theorem run_andThen_of_ok {r : Request α} {f : α → Request β} {a : α}
    (came : (r.run T .nothing w).result = .ok a) :
    (r.andThen f).run T .nothing w =
      ((f a).run T .nothing (r.run T .nothing w).world).after (r.run T .nothing w).effects := by
  rw [Request.andThen, run_bind, came]

theorem run_andThen_of_error {r : Request α} {f : α → Request β} {e : CqlError}
    (came : (r.run T .nothing w).result = .error e) :
    (r.andThen f).run T .nothing w =
      ⟨.error e, (r.run T .nothing w).effects, (r.run T .nothing w).world⟩ := by
  rw [Request.andThen, run_bind, came]
  simp only [Request.fail, run, Outcome.after, List.append_nil]

theorem moments_andThen_of_ok {r : Request α} {f : α → Request β} {a : α}
    (came : (r.run T .nothing w).result = .ok a) :
    (r.andThen f).moments T w = r.moments T w ++ (f a).moments T (r.run T .nothing w).world := by
  rw [Request.andThen, moments_bind, came]

theorem moments_andThen_of_error {r : Request α} {f : α → Request β} {e : CqlError}
    (came : (r.run T .nothing w).result = .error e) :
    (r.andThen f).moments T w = r.moments T w := by
  rw [moments, run_andThen_of_error T w came]
  rfl

end Call

namespace Request.Tells

variable {T : Transport τ} {w : World τ}

theorem course {r : Request α} (h : r.Tells T w) : Course .forced (contacts (r.moments T w)) := by
  cases came : (r.run T .nothing w).result with
  | ok a => exact .smooth (h.succeeds a came)
  | error e => exact h.failed e came

theorem of_ok {r : Request α} {a : α} (came : (r.run T .nothing w).result = .ok a)
    (placed : Placed .forced (r.moments T w))
    (succeeds : ∀ x ∈ contacts (r.moments T w), x.Succeeds)
    (opens : w.handle.isSome ∨ contacts (r.moments T w) ≠ [] →
      (r.run T .nothing w).world.handle.isSome)
    (keeps : w.handle.isSome → ∀ config outcome,
      .connected config outcome ∉ contacts (r.moments T w)) : r.Tells T w where
  placed := placed
  failed e failed := by
    rw [came] at failed
    cases failed
  succeeds _ _ := succeeds
  opens _ _ := opens
  keeps := keeps

theorem of_error {r : Request α} {e : CqlError} (came : (r.run T .nothing w).result = .error e)
    (placed : Placed .forced (r.moments T w)) (course : Course .forced (contacts (r.moments T w)))
    (keeps : w.handle.isSome → ∀ config outcome,
      .connected config outcome ∉ contacts (r.moments T w)) : r.Tells T w where
  placed := placed
  failed _ _ := course
  succeeds a ok := by
    rw [came] at ok
    cases ok
  opens a ok := by
    rw [came] at ok
    cases ok
  keeps := keeps

theorem ofExcept (r : Except CqlError α) : (Request.ofExcept r).Tells T w where
  placed := .nil
  failed _ _ := .smooth fun _ member => by cases member
  succeeds _ _ _ member := by cases member
  opens _ _ held := held.resolve_right fun some => some rfl
  keeps _ _ _ member := by cases member

theorem ok (a : α) : (Request.ok a).Tells T w := ofExcept (.ok a)

theorem fail (e : CqlError) : (Request.fail e : Request α).Tells T w := ofExcept (.error e)

theorem info {event : Event} (own : event.isOwn) (quiet : event.level = .info) {r : Request α}
    (h : r.Tells T w) : Request.Tells T (.log event r) w := by
  have moments := Call.moments_log T w own r
  have same : contacts (Call.moments T (.log event r) w) = contacts (r.moments T w) := by
    rw [moments]
    rfl
  have placed : Placed .forced (Call.moments T (.log event r) w) := by
    rw [moments]
    exact h.placed.info quiet
  cases came : (r.run T .nothing w).result with
  | ok a =>
    refine .of_ok (a := a) came placed ?_ ?_ ?_ <;> rw [same]
    · exact h.succeeds a came
    · exact h.opens a came
    · exact h.keeps
  | error e =>
    refine .of_error (e := e) came placed ?_ ?_ <;> rw [same]
    · exact h.failed e came
    · exact h.keeps

theorem andThen {r : Request α} {f : α → Request β} (h : r.Tells T w)
    (hf : ∀ a, (r.run T .nothing w).result = .ok a → (f a).Tells T (r.run T .nothing w).world) :
    (r.andThen f).Tells T w := by
  cases came : (r.run T .nothing w).result with
  | error e =>
    have moments := Call.moments_andThen_of_error T w (f := f) came
    have failed : ((r.andThen f).run T .nothing w).result = .error e := by
      rw [Call.run_andThen_of_error T w came]
    refine .of_error failed ?_ ?_ ?_ <;> rw [moments]
    · exact h.placed
    · exact h.failed e came
    · exact h.keeps
  | ok a =>
    have later := hf a came
    have moments := Call.moments_andThen_of_ok T w (f := f) came
    have run := Call.run_andThen_of_ok T w (f := f) came
    have split : contacts ((r.andThen f).moments T w) = contacts (r.moments T w) ++
        contacts ((f a).moments T (r.run T .nothing w).world) := by
      rw [moments, contacts_append]
    have placed : Placed .forced ((r.andThen f).moments T w) := by
      rw [moments]
      exact h.placed.append later.placed
    have keeps (held : w.handle.isSome) (config : Config) (outcome : Except CqlError Unit) :
        .connected config outcome ∉ contacts ((r.andThen f).moments T w) := by
      intro member
      rw [split] at member
      rcases List.mem_append.1 member with first | second
      · exact h.keeps held config outcome first
      · exact later.keeps (h.opens a came (.inl held)) config outcome second
    cases ended : ((f a).run T .nothing (r.run T .nothing w).world).result with
    | error e =>
      refine .of_error (by rw [run]; exact ended) placed ?_ keeps
      rw [split]
      refine .after (h.succeeds a came) (fun config e' again => ?_) (later.failed e ended)
      -- a second handshake shows that the connector was closed: nothing was asked for before
      by_contra some
      exact later.keeps (h.opens a came (.inr some)) config _ again
    | ok b =>
      refine .of_ok (by rw [run]; exact ended) placed (fun x member => ?_) (fun held => ?_) keeps
      · rw [split] at member
        rcases List.mem_append.1 member with first | second
        · exact h.succeeds a came x first
        · exact later.succeeds b ended x second
      · rw [run]
        refine later.opens b ended ?_
        rw [split] at held
        by_cases none : contacts (r.moments T w) = []
        · rw [none, List.nil_append] at held
          exact held.imp_left fun opened => h.opens a came (.inl opened)
        · exact .inl (h.opens a came (.inr none))

theorem givenOk {r : Except CqlError α} {f : α → Request β} (hf : ∀ a, (f a).Tells T w) :
    (Request.givenOk r f).Tells T w := by
  cases r with
  | ok a => exact hf a
  | error e => exact fail e

end Request.Tells

/-! ## Sessions and statements -/

namespace Connector

variable {T : Transport τ} {c : Connector} {w : World τ}

/-- How a request for the session of a connector ends, with what happens on the way. -/
inductive Acquires (T : Transport τ) (c : Connector) (w : World τ) :
    List Moment → Except CqlError Session → World τ → Prop where
  | held {s : Session} (held : w.handle = some s) : Acquires T c w [] (.ok s) w
  | connected (vacant : w.handle = none)
      (came : (T.connect c.config w.transport).1.outcome = .ok ()) :
      Acquires T c w
        [.logged (.connecting c.config.contactPoints), .contacted (.connected c.config (.ok ())),
          .logged .connected]
        (.ok ⟨w.established⟩)
        ⟨some ⟨w.established⟩, w.established + 1, (T.connect c.config w.transport).2⟩
  | unconnected {e : CqlError} (vacant : w.handle = none)
      (failed : (T.connect c.config w.transport).1.outcome = .error e) :
      Acquires T c w
        [.logged (.connecting c.config.contactPoints), .contacted (.connected c.config (.error e)),
          .logged (.connectFailed e)]
        (.error e) { w with transport := (T.connect c.config w.transport).2 }

namespace Acquires

variable {ms : List Moment} {w' : World τ}

theorem placed {r : Except CqlError Session} (h : c.Acquires T w ms r w') (why : Release) :
    Placed why ms := by
  cases h with
  | held _ => exact .nil
  | connected _ _ =>
    exact .info rfl ((Placed.record (.connected c.config (.ok ()))).append (.info rfl .nil))
  | unconnected _ _ => exact .info rfl (.record (.connected c.config (.error _)))

end Acquires

end Connector

end CqlClient
