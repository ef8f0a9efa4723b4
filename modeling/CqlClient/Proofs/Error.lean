import CqlClient.Error

/-!
# What an error shows

An error has a kind and a detail. `asRender` changes the kind and keeps the detail.
-/

namespace CqlClient

inductive ErrorKind where
  | configuration
  | render
  | transport
  | json
  | internal
  deriving DecidableEq

namespace CqlError

def kind : CqlError → ErrorKind
  | .configuration _ => .configuration
  | .render _ => .render
  | .transport _ => .transport
  | .json _ => .json
  | .internal _ => .internal

def detail : CqlError → String
  | .configuration fault => fault.message
  | .render fault => fault.message
  | .transport detail => detail
  | .json e => e.message
  | .internal detail => detail

theorem detail_asRender (e : CqlError) : e.asRender.detail = e.detail := by
  cases e <;> rfl

/-- Faults of a query, which a connector reports as render errors. -/
def IsRefusal (e : CqlError) : Prop := e.kind = .configuration ∨ e.kind = .render

theorem IsRefusal.kind_asRender {e : CqlError} (h : e.IsRefusal) : e.asRender.kind = .render := by
  cases e with
  | configuration fault => rfl
  | render fault => rfl
  | _ => rcases h with h | h <;> cases h

end CqlError

end CqlClient
