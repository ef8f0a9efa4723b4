import CqlClient.Proofs.Connector.Moment

/-!
# What the log says of a contact

Above the level of information, each event of a run belongs to a contact and stands right before
or right after it, `Contact.record`. How the contacts of a request follow each other is its
`Course`: all of them succeed, or a handshake fails, or a statement fails and its session is given
up.
-/

namespace CqlClient

variable {τ α β : Type}

/-- On what account sessions are given up. -/
inductive Release where
  | asked
  | forced
  /-- The session is given up since a statement does not compile. -/
  | uncompiled (e : CqlError)

namespace Contact

def Succeeds : Contact → Prop
  | .connected _ (.ok _) => True
  | .answered _ _ _ (.ok _) => True
  | _ => False

def handed? : Contact → Option String
  | .answered _ cql _ _ => some cql
  | _ => none

variable (why : Release)

/-- The error that leads to a contact. -/
def refusals : Contact → List Event
  | .released _ _ =>
    match why with
    | .uncompiled e => [.compileFailed e]
    | _ => []
  | _ => []

def announcements : Contact → List Event
  | .answered _ cql _ _ => [.executing cql]
  | _ => []

def failures : Contact → List Event
  | .connected _ (.error e) => [.connectFailed e]
  | .answered _ cql _ (.error e) => [.statementFailed cql e]
  | _ => []

/-- The warnings of the server; and that a session could not be given up, when that was forced. -/
def warnings : Contact → List Event
  | .answered _ cql _ (.ok response) => response.warnings.map (.serverWarning cql)
  | .released _ (.error e) =>
    match why with
    | .asked => []
    | _ => [.closeFailed e]
  | _ => []

/-- A contact with what is reported right before and right after it. -/
def record (x : Contact) : List Moment :=
  (x.refusals why ++ x.announcements).map .logged ++
    .contacted x :: (x.failures ++ x.warnings why).map .logged

end Contact

namespace Moment

def contact? : Moment → Option Contact
  | .logged _ => none
  | .contacted x => some x

def event? (level : LogLevel) : Moment → Option Event
  | .logged e => if e.level = level then some e else none
  | .contacted _ => none

/-- A contact, or an event above the level of information. -/
def isLoud : Moment → Bool
  | .logged e => e.level != .info
  | .contacted _ => true

end Moment

def contacts (ms : List Moment) : List Contact := ms.filterMap Moment.contact?

def handed (ms : List Moment) : List String := (contacts ms).filterMap Contact.handed?

def reports (level : LogLevel) (ms : List Moment) : List Event := ms.filterMap (Moment.event? level)

theorem contacts_append (ms ms' : List Moment) :
    contacts (ms ++ ms') = contacts ms ++ contacts ms' :=
  List.filterMap_append

theorem handed_append (ms ms' : List Moment) : handed (ms ++ ms') = handed ms ++ handed ms' := by
  rw [handed, contacts_append, List.filterMap_append]
  rfl

/-- Every loud event stands in the record of its contact. -/
def Placed (why : Release) (ms : List Moment) : Prop :=
  ms.filter Moment.isLoud = (contacts ms).flatMap (Contact.record why)

/-! ## Levels -/

section Levels

variable {why : Release} {x : Contact} {e : Event}

theorem Contact.level_refusals (member : e ∈ x.refusals why) : e.level = .error := by
  unfold refusals at member
  split at member
  · split at member
    · rw [List.mem_singleton.1 member]
      rfl
    · cases member
  · cases member

theorem Contact.level_announcements (member : e ∈ x.announcements) : e.level = .debug := by
  unfold announcements at member
  split at member
  · rw [List.mem_singleton.1 member]
    rfl
  · cases member

theorem Contact.level_failures (member : e ∈ x.failures) : e.level = .error := by
  unfold failures at member
  split at member
  · rw [List.mem_singleton.1 member]
    rfl
  · rw [List.mem_singleton.1 member]
    rfl
  · cases member

theorem Contact.level_warnings (member : e ∈ x.warnings why) : e.level = .warn := by
  unfold warnings at member
  split at member
  · obtain ⟨warning, -, rfl⟩ := List.mem_map.1 member
    rfl
  · split at member
    · cases member
    · rw [List.mem_singleton.1 member]
      rfl
  · cases member

end Levels

/-! ## Records -/

theorem contacts_logged (events : List Event) : contacts (events.map .logged) = [] := by
  rw [contacts, List.filterMap_map, List.filterMap_eq_nil_iff]
  intro e _
  rfl

theorem contacts_record (why : Release) (x : Contact) : contacts (x.record why) = [x] := by
  rw [Contact.record, contacts_append, contacts_logged, List.nil_append, contacts,
    List.filterMap_cons]
  exact congrArg (x :: ·) (contacts_logged _)

theorem loud_logged {events : List Event} (loud : ∀ e ∈ events, e.level ≠ .info) :
    (events.map Moment.logged).filter Moment.isLoud = events.map .logged := by
  refine List.filter_eq_self.2 fun m member => ?_
  obtain ⟨e, listed, rfl⟩ := List.mem_map.1 member
  simpa [Moment.isLoud] using loud e listed

theorem Contact.loud_record (why : Release) (x : Contact) :
    (x.record why).filter Moment.isLoud = x.record why := by
  have before : ∀ e ∈ x.refusals why ++ x.announcements, e.level ≠ .info := by
    intro e member
    rcases List.mem_append.1 member with refusal | announcement
    · simp [level_refusals refusal]
    · simp [level_announcements announcement]
  have after : ∀ e ∈ x.failures ++ x.warnings why, e.level ≠ .info := by
    intro e member
    rcases List.mem_append.1 member with failure | warning
    · simp [level_failures failure]
    · simp [level_warnings warning]
  rw [record, List.filter_append, loud_logged before,
    List.filter_cons_of_pos (by rfl), loud_logged after]

namespace Placed

variable {why : Release}

theorem nil : Placed why [] := rfl

theorem append {ms ms' : List Moment} (h : Placed why ms) (h' : Placed why ms') :
    Placed why (ms ++ ms') := by
  rw [Placed, List.filter_append, h, h', contacts_append, List.flatMap_append]

theorem record (x : Contact) : Placed why (x.record why) := by
  rw [Placed, x.loud_record, contacts_record, List.flatMap_singleton]

theorem info {event : Event} (quiet : event.level = .info) {ms : List Moment} (h : Placed why ms) :
    Placed why (.logged event :: ms) := by
  rw [Placed, List.filter_cons_of_neg (by simp [Moment.isLoud, quiet])]
  exact h

end Placed

/-! ## What was reported, level by level -/

theorem reports_append (level : LogLevel) (ms ms' : List Moment) :
    reports level (ms ++ ms') = reports level ms ++ reports level ms' :=
  List.filterMap_append

theorem reports_logged (level : LogLevel) {level' : LogLevel} {events : List Event}
    (same : ∀ e ∈ events, e.level = level') :
    reports level (events.map .logged) = if level' = level then events else [] := by
  induction events with
  | nil => simp [reports]
  | cons e events ih =>
    have first := same e List.mem_cons_self
    have rest := ih fun e member => same e (List.mem_cons_of_mem _ member)
    rw [reports] at rest ⊢
    rw [List.map_cons, List.filterMap_cons, rest, Moment.event?, first]
    by_cases found : level' = level <;> simp [found]

theorem reports_record (level : LogLevel) (why : Release) (x : Contact) :
    reports level (x.record why) =
      (if .error = level then x.refusals why else []) ++
        (if .debug = level then x.announcements else []) ++
        (if .error = level then x.failures else []) ++
        if .warn = level then x.warnings why else [] := by
  have here (ms : List Moment) : reports level (.contacted x :: ms) = reports level ms := rfl
  rw [Contact.record, reports_append, here, List.map_append, List.map_append, reports_append,
    reports_append, reports_logged level fun _ => Contact.level_refusals,
    reports_logged level fun _ => Contact.level_announcements,
    reports_logged level fun _ => Contact.level_failures,
    reports_logged level fun _ => Contact.level_warnings, ← List.append_assoc]

/-- What was reported above the level of information can be told from the contacts. -/
theorem Placed.reports_eq {why : Release} {ms : List Moment} (h : Placed why ms) {level : LogLevel}
    (loud : level ≠ .info) :
    reports level ms = (contacts ms).flatMap fun x => reports level (x.record why) := by
  have filtered : reports level ms = reports level (ms.filter Moment.isLoud) := by
    rw [reports, reports, List.filterMap_filter]
    congr 1
    funext m
    cases m with
    | contacted x => rfl
    | logged e =>
      by_cases found : e.level = level
      · simp [Moment.event?, Moment.isLoud, found, loud]
      · simp [Moment.event?, found]
  rw [filtered, h, reports, List.filterMap_flatMap]
  rfl

end CqlClient
