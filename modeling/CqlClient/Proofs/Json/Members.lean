import CqlClient.Query.Json
import Mathlib.Algebra.Order.Ring.Int
import Mathlib.Data.List.Induction

/-!
# Members of objects

What is found among the members of an object, and what their normal form keeps of them: it has the
same keys (`mem_keys_normalize`) in increasing order (`sorted_normalize`), and members with different
keys are only rearranged (`perm_normalize`).
-/

namespace CqlClient

theorem Json.asNat64?_eq_some_iff {v : Json} {n : Nat} :
    v.asNat64? = some n ↔ v = .int n ∧ n < 2 ^ 64 := by
  have width : Int.pow 2 64 = 2 ^ 64 := rfl
  cases v with
  | int m =>
    rw [asNat64?, Option.ite_none_right_eq_some, Option.some.injEq, Json.int.injEq]
    omega
  | _ => simp [asNat64?]

namespace Members

variable {key name : String} {value : Json} {members others : Members} {m : String × Json}

/-! ## Look-up -/

@[simp]
theorem find?_nil : find? key [] = none := rfl

@[simp]
theorem find?_cons :
    find? key ((name, value) :: members) = if name = key then some value else find? key members :=
  rfl

@[simp]
theorem find?_append :
    find? key (members ++ others) = (find? key members).or (find? key others) := by
  induction members with
  | nil => rfl
  | cons m members ih =>
    simp only [List.cons_append, find?, ih]
    split <;> rfl

@[simp]
theorem find?_optional {value : Option Json} :
    find? key (Json.optional name value) = if name = key then value else none := by
  cases value <;> simp [Json.optional]

theorem find?_eq_some_iff (different : (members.map Prod.fst).Nodup) :
    find? key members = some value ↔ (key, value) ∈ members := by
  induction members with
  | nil => simp
  | cons m members ih =>
    obtain ⟨apart, rest⟩ := List.nodup_cons.1 different
    rw [find?, List.mem_cons]
    split
    · rename_i here
      have absent : (key, value) ∉ members := fun among =>
        apart (List.mem_map.2 ⟨_, among, here.symm⟩)
      simp [absent, Prod.ext_iff, here, eq_comm]
    · rename_i elsewhere
      rw [ih rest]
      simp [Prod.ext_iff, Ne.symm elsewhere]

theorem find?_eq_none (absent : key ∉ members.map Prod.fst) : find? key members = none := by
  induction members with
  | nil => rfl
  | cons m members ih =>
    obtain ⟨other, absent⟩ := not_or.1 (mt List.mem_cons.2 absent)
    rw [find?, if_neg (Ne.symm other), ih absent]

section Readers

variable {α : Type} {read : Json → Option α} {write : α → Json}

theorem required_of_find? (found : members.find? key = some value) :
    members.required key read = read value := by
  simp [required, found]

theorem optional_of_find? {x : Option α} (found : members.find? key = x.map write)
    (back : ∀ a ∈ x, write a ≠ .null ∧ read (write a) = some a) :
    members.optional key read = some x := by
  cases x with
  | none => simp [optional, found]
  | some a =>
    obtain ⟨filled, back⟩ := back a rfl
    simp [optional, found, back]

/-- What an optional member is read as is read from some value. -/
theorem exists_of_optional {x : Option α} (h : members.optional key read = some x) {a : α}
    (present : a ∈ x) : ∃ v, read v = some a := by
  obtain rfl : x = some a := present
  unfold optional at h
  split at h
  · cases h
  · cases h
  · rename_i v _ _
    obtain ⟨b, back, same⟩ := Option.map_eq_some_iff.1 h
    obtain rfl := Option.some.inj same
    exact ⟨v, back⟩

end Readers

/-! ## Insertion -/

theorem insert_of_lt (before : ∀ m ∈ members, m.1 < key) :
    members.insert key value = members ++ [(key, value)] := by
  induction members with
  | nil => rfl
  | cons m members ih =>
    obtain ⟨first, rest⟩ := List.forall_mem_cons.1 before
    rw [insert, if_neg (String.lt_asymm first), if_neg (String.ne_of_lt first).symm, ih rest,
      List.cons_append]

theorem mem_of_mem_insert (among : m ∈ members.insert key value) :
    m = (key, value) ∨ m ∈ members := by
  induction members with
  | nil => exact .inl (List.mem_singleton.1 among)
  | cons first members ih =>
    rw [insert] at among
    split at among
    · exact List.mem_cons.1 among
    · split at among
      · exact (List.mem_cons.1 among).imp_right (List.mem_cons_of_mem first)
      · rcases List.mem_cons.1 among with rfl | among
        · exact .inr List.mem_cons_self
        · exact (ih among).imp_right (List.mem_cons_of_mem first)

theorem mem_keys_insert :
    name ∈ (members.insert key value).map Prod.fst ↔ name = key ∨ name ∈ members.map Prod.fst := by
  induction members with
  | nil => simp [insert]
  | cons m members ih =>
    rw [insert]
    split
    · simp
    · split
      · rename_i same
        simp [same]
      · rw [List.map_cons, List.mem_cons, ih, List.map_cons, List.mem_cons]
        exact or_left_comm

theorem sorted_insert (sorted : (members.map Prod.fst).Pairwise (· < ·)) :
    ((members.insert key value).map Prod.fst).Pairwise (· < ·) := by
  induction members with
  | nil => exact List.pairwise_singleton ..
  | cons m members ih =>
    obtain ⟨before, rest⟩ := List.pairwise_cons.1 sorted
    rw [insert]
    split
    · rename_i first
      refine List.pairwise_cons.2 ⟨fun name among => ?_, sorted⟩
      rcases List.mem_cons.1 among with rfl | among
      · exact first
      · exact String.lt_trans first (before name among)
    · split
      · rename_i same
        subst same
        exact List.pairwise_cons.2 ⟨before, rest⟩
      · rename_i unordered differs
        refine List.pairwise_cons.2 ⟨fun name among => ?_, ih rest⟩
        rcases mem_keys_insert.1 among with rfl | among
        · by_contra later
          exact differs (String.le_antisymm (String.not_lt.1 later) (String.not_lt.1 unordered))
        · exact before name among

theorem perm_insert (absent : key ∉ members.map Prod.fst) :
    (members.insert key value).Perm ((key, value) :: members) := by
  induction members with
  | nil => exact .refl _
  | cons m members ih =>
    obtain ⟨other, absent⟩ := not_or.1 (mt List.mem_cons.2 absent)
    rw [insert]
    split
    · exact .refl _
    · exact ((ih absent).cons m).trans (.swap (key, value) m members)

/-! ## The normal form -/

theorem normalize_append_singleton :
    normalize (members ++ [m]) = members.normalize.insert m.1 m.2 := by
  rw [normalize, List.foldl_append, ← normalize]
  rfl

theorem normalize_of_sorted (sorted : (members.map Prod.fst).Pairwise (· < ·)) :
    members.normalize = members := by
  induction members using List.reverseRecOn with
  | nil => rfl
  | append_singleton members m ih =>
    rw [List.map_append, List.pairwise_append] at sorted
    obtain ⟨sorted, -, before⟩ := sorted
    rw [normalize_append_singleton, ih sorted]
    refine insert_of_lt fun m' among => ?_
    exact before m'.1 (List.mem_map_of_mem among) m.1 (List.mem_singleton_self m.1)

theorem mem_of_mem_normalize (among : m ∈ members.normalize) : m ∈ members := by
  induction members using List.reverseRecOn with
  | nil => exact among
  | append_singleton members last ih =>
    rw [normalize_append_singleton] at among
    rcases mem_of_mem_insert among with rfl | among
    · exact List.mem_append_right members (List.mem_singleton_self _)
    · exact List.mem_append_left _ (ih among)

theorem mem_keys_normalize : key ∈ members.normalize.map Prod.fst ↔ key ∈ members.map Prod.fst := by
  induction members using List.reverseRecOn with
  | nil => rfl
  | append_singleton members last ih =>
    rw [normalize_append_singleton, mem_keys_insert, ih, List.map_append, List.mem_append,
      List.map_singleton, List.mem_singleton]
    exact or_comm

theorem sorted_normalize : (members.normalize.map Prod.fst).Pairwise (· < ·) := by
  induction members using List.reverseRecOn with
  | nil => exact .nil
  | append_singleton members last ih =>
    rw [normalize_append_singleton]
    exact sorted_insert ih

theorem perm_normalize (different : (members.map Prod.fst).Nodup) :
    List.Perm (normalize members) members := by
  induction members using List.reverseRecOn with
  | nil => exact .refl _
  | append_singleton members last ih =>
    rw [List.map_append, List.nodup_append] at different
    obtain ⟨different, -, apart⟩ := different
    have absent : last.1 ∉ (normalize members).map Prod.fst := fun among =>
      apart _ (mem_keys_normalize.1 among) _ (List.mem_singleton_self _) rfl
    rw [normalize_append_singleton]
    exact (perm_insert absent).trans
      (((ih different).cons last).trans (List.perm_append_singleton last members).symm)

theorem find?_normalize (different : (members.map Prod.fst).Nodup) :
    find? key members.normalize = find? key members := by
  have rearranged := perm_normalize different
  have different' : (members.normalize.map Prod.fst).Nodup :=
    (rearranged.map Prod.fst).nodup_iff.2 different
  ext value
  rw [find?_eq_some_iff different', find?_eq_some_iff different, rearranged.mem_iff]

/-- Members with increasing keys are determined by what they are. -/
theorem eq_of_perm (sorted : (members.map Prod.fst).Pairwise (· < ·))
    (sorted' : (others.map Prod.fst).Pairwise (· < ·)) (same : List.Perm members others) :
    members = others :=
  same.eq_of_pairwise (fun _ _ _ _ less greater => absurd greater (String.lt_asymm less))
    (List.pairwise_map.1 sorted : members.Pairwise fun m m' => m.1 < m'.1)
    (List.pairwise_map.1 sorted' : others.Pairwise fun m m' => m.1 < m'.1)

end Members

end CqlClient
