import CqlClient.Proofs.Except
import CqlClient.Proofs.Json.Members
import CqlClient.Schema.Replication

/-!
# Replications that are read back

The factors of datacenters stand in one object with the class and the factor of the cluster. By
`Replication.survives_iff` a replication is read back from its object just when no datacenter was
given the name of one of these two.
-/

namespace CqlClient

namespace Replication

variable {r : Replication} {v : Json} {members : Members} {dcs : List (String × Nat)}

/-- The keys with a meaning of their own, which no datacenter can have. -/
def fixedKeys : List String := ["class", "replication_factor"]

def factorMembers (dcs : List (String × Nat)) : Members := dcs.map fun d => (d.1, .int d.2)

@[simp]
theorem factorMembers_cons (d : String × Nat) :
    factorMembers (d :: dcs) = (d.1, .int d.2) :: factorMembers dcs := rfl

theorem keys_factorMembers : (factorMembers dcs).map Prod.fst = dcs.map Prod.fst := by
  rw [factorMembers, List.map_map]
  rfl

/-- The datacenters stand in increasing order, and factors are integers of 32 bits. -/
structure WellFormed (r : Replication) : Prop where
  sorted : (r.datacenters.map Prod.fst).Pairwise (· < ·)
  factor_lt : ∀ n ∈ r.factor, n < 2 ^ 32
  datacenters_lt : ∀ d ∈ r.datacenters, d.2 < 2 ^ 32

/-- No datacenter has one of the fixed keys as its name. -/
def NamesFree (r : Replication) : Prop := ∀ d ∈ r.datacenters, d.1 ∉ fixedKeys

/-- The members of the object have different keys, and the object is read as the replication. -/
def Survives (r : Replication) : Prop :=
  (r.members.map Prod.fst).Nodup ∧ ofJson? r.toJson = some r

/-! ## Reading -/

theorem ofText?_text (s : ReplicationStrategy) : ReplicationStrategy.ofText? s.text = some s := by
  cases s <;> rfl

theorem factor?_eq_some_iff {n : Nat} : factor? v = some n ↔ v = .int n ∧ n < 2 ^ 32 := by
  have width : Nat.pow 2 32 = 2 ^ 32 := rfl
  rw [factor?, Option.filter_eq_some_iff, Json.asNat64?_eq_some_iff, decide_eq_true_eq]
  constructor
  · rintro ⟨⟨rfl, -⟩, less⟩
    exact ⟨rfl, less⟩
  · rintro ⟨rfl, less⟩
    exact ⟨⟨rfl, by omega⟩, less⟩

theorem entry_eq_some_iff {m : String × Json} {d : String × Nat} :
    (factor? m.2).map (m.1, ·) = some d ↔ m = (d.1, .int d.2) ∧ d.2 < 2 ^ 32 := by
  obtain ⟨key, v⟩ := m
  obtain ⟨name, n⟩ := d
  simp only [Option.map_eq_some_iff, factor?_eq_some_iff, Prod.mk.injEq]
  constructor
  · rintro ⟨n, ⟨rfl, less⟩, rfl, rfl⟩
    exact ⟨⟨rfl, rfl⟩, less⟩
  · rintro ⟨⟨rfl, rfl⟩, less⟩
    exact ⟨n, ⟨rfl, less⟩, rfl, rfl⟩

theorem datacenters?_eq (members : Members) : datacenters? members =
    (members.filter (·.1 ∉ fixedKeys)).mapM fun m => (factor? m.2).map (m.1, ·) := by
  have kept : (members.filter fun m => m.1 ≠ "class" && m.1 ≠ "replication_factor") =
      members.filter (·.1 ∉ fixedKeys) := by
    apply List.filter_congr
    simp [fixedKeys]
  rw [← kept]
  rfl

theorem datacenters?_eq_some_iff : datacenters? members = some dcs ↔
    members.filter (·.1 ∉ fixedKeys) = factorMembers dcs ∧ ∀ d ∈ dcs, d.2 < 2 ^ 32 := by
  rw [datacenters?_eq, mapM_eq_some]
  simp only [entry_eq_some_iff]
  generalize members.filter (·.1 ∉ fixedKeys) = named
  induction named generalizing dcs with
  | nil => cases dcs <;> simp [factorMembers]
  | cons m named ih =>
    cases dcs with
    | nil => simp [factorMembers]
    | cons d dcs =>
      rw [List.forall₂_cons, factorMembers_cons, List.cons.injEq, List.forall_mem_cons]
      exact (and_congr_right fun _ => ih).trans and_and_and_comm

theorem ofJson?_eq_some (read : ofJson? v = some r) : ∃ members, v = .obj members ∧
    Members.optional members "replication_factor" factor? = some r.factor ∧
    datacenters? members = some r.datacenters := by
  unfold ofJson? at read
  split at read
  · rename_i members
    simp only [Option.bind_eq_bind, Option.bind_eq_some_iff] at read
    obtain ⟨strategy, -, factor, cluster, dcs, each, same⟩ := read
    obtain rfl := Option.some.inj same
    exact ⟨members, rfl, cluster, each⟩
  · cases read

theorem namesFree_of_ofJson? (read : ofJson? v = some r) : r.NamesFree := by
  obtain ⟨members, -, -, each⟩ := ofJson?_eq_some read
  intro d among
  have kept : (d.1, Json.int d.2) ∈ members.filter (·.1 ∉ fixedKeys) := by
    rw [(datacenters?_eq_some_iff.1 each).1]
    exact List.mem_map_of_mem among
  exact of_decide_eq_true (List.mem_filter.1 kept).2

theorem wellFormed_of_ofJson? (wf : v.WellFormed) (read : ofJson? v = some r) : r.WellFormed := by
  obtain ⟨members, rfl, cluster, each⟩ := ofJson?_eq_some read
  obtain ⟨kept, less⟩ := datacenters?_eq_some_iff.1 each
  constructor
  · rw [← keys_factorMembers, ← kept]
    exact wf.1.sublist (List.filter_sublist.map Prod.fst)
  · intro n present
    obtain ⟨v, read⟩ := Members.exists_of_optional cluster present
    exact (factor?_eq_some_iff.1 read).2
  · exact less

/-! ## Writing -/

theorem members_eq (r : Replication) : r.members = ("class", .str r.strategy.text) ::
    (Json.optional "replication_factor" (r.factor.map fun n => .int n) ++
      factorMembers r.datacenters) := rfl

theorem not_mem_names (free : r.NamesFree) {key : String} (fixed : key ∈ fixedKeys) :
    key ∉ (factorMembers r.datacenters).map Prod.fst := by
  rw [keys_factorMembers]
  intro among
  obtain ⟨d, named, rfl⟩ := List.mem_map.1 among
  exact free d named fixed

theorem nodup_keys (wf : r.WellFormed) (free : r.NamesFree) : (r.members.map Prod.fst).Nodup := by
  have names : ((factorMembers r.datacenters).map Prod.fst).Nodup := by
    rw [keys_factorMembers]
    exact wf.sorted.imp String.ne_of_lt
  have noClass := not_mem_names free (show "class" ∈ fixedKeys by simp [fixedKeys])
  have noFactor := not_mem_names free (show "replication_factor" ∈ fixedKeys by simp [fixedKeys])
  rw [members_eq]
  cases r.factor <;> simp_all [Json.optional]

theorem filter_members (free : r.NamesFree) :
    r.members.filter (·.1 ∉ fixedKeys) = factorMembers r.datacenters := by
  have all : (factorMembers r.datacenters).filter (·.1 ∉ fixedKeys) =
      factorMembers r.datacenters := by
    rw [List.filter_eq_self]
    intro m among
    obtain ⟨d, named, rfl⟩ := List.mem_map.1 among
    exact decide_eq_true (free d named)
  rw [members_eq]
  cases r.factor <;> simpa [Json.optional, fixedKeys] using all

theorem ofJson?_toJson (wf : r.WellFormed) (free : r.NamesFree) : ofJson? r.toJson = some r := by
  have different := nodup_keys wf free
  let members : Members := r.members.normalize
  have strategy : Members.required members "class"
      (fun v => v.choice?.bind ReplicationStrategy.ofText?) = some r.strategy := by
    have found : Members.find? "class" members = some (.str r.strategy.text) := by
      rw [Members.find?_normalize different]
      rfl
    rw [Members.required_of_find? found]
    exact ofText?_text r.strategy
  have factor : Members.optional members "replication_factor" factor? = some r.factor := by
    apply Members.optional_of_find?
    · show Members.find? "replication_factor" members = r.factor.map fun n => .int n
      have absent : "replication_factor" ∉ (factorMembers r.datacenters).map Prod.fst :=
        not_mem_names free (by simp [fixedKeys])
      rw [Members.find?_normalize different, members_eq]
      cases r.factor <;> simp [Members.find?_eq_none absent]
    · exact fun n present => ⟨nofun, factor?_eq_some_iff.2 ⟨rfl, wf.factor_lt n present⟩⟩
  have datacenters : datacenters? members = some r.datacenters := by
    rw [datacenters?_eq_some_iff, ← filter_members free]
    refine ⟨?_, wf.datacenters_lt⟩
    apply Members.eq_of_perm
    · exact Members.sorted_normalize.sublist (List.filter_sublist.map Prod.fst)
    · rw [filter_members free, keys_factorMembers]
      exact wf.sorted
    · exact (Members.perm_normalize different).filter _
  show ofJson? (.obj members) = some r
  simp only [ofJson?, strategy, factor, datacenters]
  rfl

theorem survives_of_wellFormed (wf : r.WellFormed) : r.Survives ↔ r.NamesFree :=
  ⟨fun survives => namesFree_of_ofJson? survives.2,
    fun free => ⟨nodup_keys wf free, ofJson?_toJson wf free⟩⟩

/-! ## Building -/

theorem factorMembers_insertFactor (name : String) (n : Nat) :
    factorMembers (insertFactor name n dcs) = (factorMembers dcs).insert name (.int n) := by
  induction dcs with
  | nil => rfl
  | cons d dcs ih =>
    rw [factorMembers_cons, insertFactor, Members.insert, ← ih]
    split
    · rfl
    · split <;> rfl

theorem factorMembers_networkTopology :
    factorMembers (networkTopology dcs).datacenters = (factorMembers dcs).normalize := by
  rw [networkTopology]
  induction dcs using List.reverseRecOn with
  | nil => rfl
  | append_singleton dcs d ih =>
    have last : factorMembers (dcs ++ [d]) = factorMembers dcs ++ [(d.1, .int d.2)] :=
      List.map_append
    rw [List.foldl_append, List.foldl_cons, List.foldl_nil, factorMembers_insertFactor, ih, last,
      Members.normalize_append_singleton]

theorem wellFormed_simple {n : Nat} (fits : n < 2 ^ 32) : (simple n).WellFormed where
  sorted := .nil
  factor_lt := by simpa [simple] using fits
  datacenters_lt := nofun

theorem wellFormed_networkTopology (fit : ∀ d ∈ dcs, d.2 < 2 ^ 32) :
    (networkTopology dcs).WellFormed where
  sorted := by
    rw [← keys_factorMembers, factorMembers_networkTopology]
    exact Members.sorted_normalize
  factor_lt := nofun
  datacenters_lt := by
    intro d among
    have written : (d.1, Json.int d.2) ∈ factorMembers (networkTopology dcs).datacenters :=
      List.mem_map_of_mem among
    rw [factorMembers_networkTopology] at written
    obtain ⟨d', given, same⟩ := List.mem_map.1 (Members.mem_of_mem_normalize written)
    obtain ⟨-, same⟩ := Prod.mk.inj same
    have kept : d'.2 = d.2 := Int.ofNat.inj (Json.int.inj same)
    rw [← kept]
    exact fit d' given

theorem namesFree_networkTopology_iff :
    (networkTopology dcs).NamesFree ↔ ∀ d ∈ dcs, d.1 ∉ fixedKeys := by
  have names (key : String) :
      key ∈ (networkTopology dcs).datacenters.map Prod.fst ↔ key ∈ dcs.map Prod.fst := by
    rw [← keys_factorMembers, factorMembers_networkTopology, Members.mem_keys_normalize,
      keys_factorMembers]
  have byName (entries : List (String × Nat)) :
      (∀ d ∈ entries, d.1 ∉ fixedKeys) ↔ ∀ key ∈ entries.map Prod.fst, key ∉ fixedKeys := by
    rw [List.forall_mem_map]
  rw [NamesFree, byName, byName]
  simp only [names]

/-! ## The exact condition -/

/-- How a replication comes about, with the names that a caller gives its datacenters. -/
inductive Obtained : List String → Replication → Prop
  | simple {n : Nat} (fits : n < 2 ^ 32) : Obtained [] (simple n)
  | networkTopology {dcs : List (String × Nat)} (fit : ∀ d ∈ dcs, d.2 < 2 ^ 32) :
      Obtained (dcs.map Prod.fst) (networkTopology dcs)
  | read {v : Json} {r : Replication} (wf : v.WellFormed) (read : ofJson? v = some r) :
      Obtained [] r

/-- A replication is read back from its object just if none of the names that a caller gave is a
fixed key; so one for the whole cluster is, and every one that was read. -/
theorem survives_iff {names : List String} (obtained : Obtained names r) :
    r.Survives ↔ ∀ name ∈ names, name ∉ fixedKeys := by
  cases obtained with
  | simple fits =>
    rw [survives_of_wellFormed (wellFormed_simple fits)]
    exact iff_of_true nofun nofun
  | networkTopology fit =>
    rw [survives_of_wellFormed (wellFormed_networkTopology fit), namesFree_networkTopology_iff,
      List.forall_mem_map]
  | read wf read =>
    rw [survives_of_wellFormed (wellFormed_of_ofJson? wf read)]
    exact iff_of_true (namesFree_of_ofJson? read) nofun

/-- A datacenter `class` takes the place of the class, so that the object is read as no replication;
a datacenter `replication_factor` is read as the factor of the cluster. -/
theorem datacenter_named_class_lost :
    ¬ (networkTopology [("class", 2), ("b", 3)]).Survives ∧
    (networkTopology [("class", 2), ("b", 3)]).toJson = .obj [("b", .int 3), ("class", .int 2)] ∧
    ofJson? (.obj [("b", .int 3), ("class", .int 2)]) = none ∧
    ¬ (networkTopology [("replication_factor", 2)]).Survives ∧
    ofJson? (networkTopology [("replication_factor", 2)]).toJson =
      some { strategy := .networkTopology, factor := some 2 } ∧
    (networkTopology [("b", 1), ("Class", 2), ("", 0), ("b", 4294967295)]).Survives := by
  refine ⟨?_, rfl, rfl, ?_, rfl, ?_⟩
  · rw [survives_iff (.networkTopology (by decide))]
    decide
  · rw [survives_iff (.networkTopology (by decide))]
    decide
  · rw [survives_iff (.networkTopology (by decide))]
    decide

end Replication

end CqlClient
