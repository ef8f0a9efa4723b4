import CqlClient.Proofs.Format.MapLiteral
import CqlClient.Proofs.Schema.Reading
import CqlClient.Proofs.Schema.Refusal
import CqlClient.Proofs.Schema.Replication

/-!
# The replication in the creation of a keyspace

A keyspace is created with its replication as a map literal. By `Keyspace.create_replicates` the
literal is read back as the whole replication, if no name of a datacenter needs an escape.
-/

namespace CqlClient

/-! ## Replications -/

namespace Replication

variable {r : Replication}

/-- The class, the factor of the cluster if there is one, and the factors of the datacenters in the
order of their names, each under a key of its own. -/
structure Lists (r : Replication) (entries : Members) : Prop where
  entries_eq : entries = ("class", .str r.strategy.text) ::
    (Json.optional "replication_factor" (r.factor.map fun n => .int n) ++
      factorMembers r.datacenters)
  sorted : ((factorMembers r.datacenters).map Prod.fst).Pairwise (· < ·)
  nodup : (entries.map Prod.fst).Nodup

theorem lists_members (wf : r.WellFormed) (free : r.NamesFree) : r.Lists r.members where
  entries_eq := members_eq r
  sorted := by
    rw [keys_factorMembers]
    exact wf.sorted
  nodup := nodup_keys wf free

theorem isMapEntry_of_mem_members (plain : ∀ d ∈ r.datacenters, IsPlainText d.1)
    {m : String × Json} (member : m ∈ r.members) : IsMapEntry m := by
  rw [members_eq, List.mem_cons, List.mem_append] at member
  rcases member with rfl | factor | datacenter
  · have key : IsPlainText "class" := by decide
    refine ⟨key, .text ?_⟩
    cases r.strategy <;> decide
  · cases present : r.factor with
    | none => simp [present, Json.optional] at factor
    | some n =>
      obtain rfl : m = ("replication_factor", .int n) := by
        simpa [present, Json.optional] using factor
      have key : IsPlainText "replication_factor" := by decide
      exact ⟨key, .number n⟩
  · obtain ⟨d, among, rfl⟩ := List.mem_map.1 datacenter
    exact ⟨plain d among, .number d.2⟩

theorem readMap_toLiteral (plain : ∀ d ∈ r.datacenters, IsPlainText d.1) :
    readMap r.toLiteral = some r.members :=
  readMap_definitionLiteral fun _ => isMapEntry_of_mem_members plain

end Replication

/-! ## Creations of keyspaces -/

namespace Keyspace

variable {k : Keyspace} {options : KeyspaceOptions}

/-- A name that is rejected is refused before the transport is asked; for any other one statement is
handed over, and its literal lists the replication. -/
theorem create_replicates {τ : Type} {T : Transport τ} (hf : k.connector.formatter.IsCql)
    (other : k.name ≠ "*") (wf : options.replication.WellFormed)
    (free : options.replication.NamesFree)
    (plain : ∀ d ∈ options.replication.datacenters, IsPlainText d.1) (w : World τ) :
    let turn := (k.create options).turn T w
    match k.connector.formatter.escapeName k.name with
    | .error e => e.kind = .configuration ∧ turn = .settled (.error e) w.machine
    | .ok _ => ∃ cql literal entries sent,
        SchemaStatement.read cql =
          some (.createKeyspace (.quoted (Name.member k.name)) literal) ∧
        readMap literal = some entries ∧ options.replication.Lists entries ∧
        w.machine.Sends T k.connector cql [] sent ∧ turn = sent.map fun _ => () := by
  intro turn
  cases written : k.connector.formatter.escapeName k.name with
  | error e =>
    have refused : k.creation options = .error e := bind_eq_error.2 (.inl written)
    have settled : (k.create options).turn T w = .settled (.error e) w.machine := by
      rw [turn_create, refused]
    exact ⟨Formatter.kind_of_escapeName written, settled⟩
  | ok name =>
    obtain ⟨writable, -⟩ := (Formatter.escapeName_eq_ok_iff hf).1 written
    have quoted := writable.identifier_eq other
    have read := SchemaStatement.read_keyspaceCreation writable options.replication.toLiteral
    rw [quoted] at read
    refine ⟨_, _, _, _, read, Replication.readMap_toLiteral plain,
      Replication.lists_members wf free, w.machine.execute_sends, ?_⟩
    have rendered : k.creation options = .ok _ := (creation_eq_ok_iff hf).2 ⟨writable, rfl⟩
    show (k.create options).turn T w = _
    rw [turn_create, rendered, quoted]

def shop : Keyspace := ⟨{ config := .standard }, "eu.shop"⟩

/-- Names with a comma, a colon, braces and blanks. -/
theorem shop_replicated :
    let options : KeyspaceOptions :=
      { replication := .networkTopology [("west", 2), ("a: b, \x7bc\x7d", 3)] }
    let w : World (List (List Row)) := { transport := [] }
    shop.connector.formatter.IsCql ∧ shop.name ≠ "*" ∧ options.replication.WellFormed ∧
      options.replication.NamesFree ∧
      (∀ d ∈ options.replication.datacenters, IsPlainText d.1) ∧
      ∃ cql literal, ((shop.create options).turn .replaying w).statements = [(cql, [])] ∧
        SchemaStatement.read cql = some (.createKeyspace (.quoted "shop") literal) ∧
        readMap literal = some [("class", .str "NetworkTopologyStrategy"),
          ("a: b, \x7bc\x7d", .int 3), ("west", .int 2)] := by
  intro options w
  have other : shop.name ≠ "*" := by decide
  have wf : options.replication.WellFormed := Replication.wellFormed_networkTopology (by decide)
  have free : options.replication.NamesFree :=
    Replication.namesFree_networkTopology_iff.2 (by decide)
  have plain : ∀ d ∈ options.replication.datacenters, IsPlainText d.1 := by decide
  have created := create_replicates (T := .replaying) Formatter.cql_isCql other wf free plain w
  have escaped : ∃ name, shop.connector.formatter.escapeName shop.name = .ok name := ⟨_, rfl⟩
  obtain ⟨name, escaped⟩ := escaped
  rw [escaped] at created
  obtain ⟨cql, literal, entries, sent, read, listed, lists, sends, same⟩ := created
  refine ⟨Formatter.cql_isCql, other, wf, free, plain, cql, literal, ?_, read, ?_⟩
  · have answer : ((shop.create options).turn .replaying w).answer = .ok () := rfl
    rw [same] at answer ⊢
    refine sends.statements_eq.resolve_right fun ⟨_, f, failed⟩ => ?_
    simp [Turn.map, failed, Except.map] at answer
  · rw [listed, lists.entries_eq]
    rfl

end Keyspace

end CqlClient
