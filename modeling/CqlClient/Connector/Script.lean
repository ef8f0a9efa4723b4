import CqlClient.Connector.Basic
import CqlClient.Connector.Run

/-!
# Scripted transports

A transport that answers from a script. A scripted answer may name calls that others make on the
connector while its statement is in flight.
-/

namespace CqlClient

inductive Interlude where
  | connect
  | close
  | execute (cql : String)

structure ScriptedAnswer where
  outcome : Except CqlError Response
  interludes : List Interlude := []

structure Script where
  answers : List ScriptedAnswer := []
  /-- The number of handshakes that will fail. -/
  refusals : Nat := 0
  failsShutdown : Bool := false
  connects : Nat := 0
  shutdowns : Nat := 0
  interludes : List Interlude := []

namespace Script

def connect (_ : Config) (s : Script) : Reply Unit × Script :=
  let s := { s with connects := s.connects + 1 }
  match s.refusals with
  | 0 => ({ outcome := .ok () }, s)
  | n + 1 => ({ outcome := .error (.transport "connection refused") }, { s with refusals := n })

def execute (_ : Session) (_ : String) (_ : List Json) (s : Script) : Reply Response × Script :=
  match s.answers with
  | [] => ({ outcome := .ok { rows := some [] } }, { s with interludes := [] })
  | a :: rest => ({ outcome := a.outcome }, { s with answers := rest, interludes := a.interludes })

def shutdown (_ : Session) (s : Script) : Reply Unit × Script :=
  let s := { s with shutdowns := s.shutdowns + 1 }
  if s.failsShutdown then ({ outcome := .error (.transport "shutdown failed") }, s)
  else ({ outcome := .ok () }, s)

def transport : Transport Script := { connect, execute, shutdown }

def call (c : Connector) : Interlude → Call Unit
  | .connect => Call.map (fun _ => ()) c.connect
  | .close => Call.map (fun _ => ()) c.close
  | .execute cql => Call.map (fun _ => ()) (c.execute (.text cql) [])

def runAll (c : Connector) (meanwhile : Meanwhile Script) :
    List Interlude → World Script → List Effect × World Script
  | [], w => ([], w)
  | i :: rest, w =>
    let first := (call c i).run transport meanwhile w
    let (effects, w) := runAll c meanwhile rest first.world
    (first.effects ++ effects, w)

/-- Makes the calls that are due while a statement is in flight. Each statement uses up an answer,
so that the calls nest no deeper than there are answers. -/
def interludesTo (c : Connector) : (depth : Nat) → Meanwhile Script
  | 0 => Meanwhile.nothing
  | depth + 1 => fun w =>
    runAll c (interludesTo c depth) w.transport.interludes
      { w with transport := { w.transport with interludes := [] } }

def run {α : Type} (c : Connector) (call : Call α) (w : World Script) : Outcome Script α :=
  call.run transport (interludesTo c w.transport.answers.length) w

end Script

end CqlClient
