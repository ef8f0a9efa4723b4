import Mathlib.Data.List.Forall2

/-!
# Computations that may fail

A computation in two steps succeeds when both of them do, and one over a list when it does at every
member; a failure is the first one met.
-/

namespace CqlClient

variable {ε α β : Type}

theorem bind_eq_ok {x : Except ε α} {k : α → Except ε β} {b : β} :
    x >>= k = .ok b ↔ ∃ a, x = .ok a ∧ k a = .ok b := by
  cases x with
  | error e => simp [bind, Except.bind]
  | ok a => simp [bind, Except.bind]

theorem bind_eq_error {x : Except ε α} {k : α → Except ε β} {e : ε} :
    x >>= k = .error e ↔ x = .error e ∨ ∃ a, x = .ok a ∧ k a = .error e := by
  cases x with
  | error e' => simp [bind, Except.bind]
  | ok a => simp [bind, Except.bind]

theorem forall₂_of_mem {R : α → β → Prop} {S : β → α → Prop} {xs : List α}
    {ys : List β} (h : ∀ x ∈ xs, ∀ {y : β}, R x y → S y x) (each : List.Forall₂ R xs ys) :
    List.Forall₂ S ys xs := by
  induction each with
  | nil => exact .nil
  | cons head _ ih =>
    obtain ⟨first, rest⟩ := List.forall_mem_cons.1 h
    exact .cons (first head) (ih rest)

theorem exists_of_mem_left {R : α → β → Prop} {xs : List α} {ys : List β}
    (each : List.Forall₂ R xs ys) {x : α} (member : x ∈ xs) : ∃ y ∈ ys, R x y := by
  obtain ⟨i, short, rfl⟩ := List.mem_iff_getElem.1 member
  have short' : i < ys.length := each.length_eq ▸ short
  exact ⟨ys[i], List.getElem_mem _, List.forall₂_iff_get.1 each |>.2 i short short'⟩

theorem exists_of_mem_right {R : α → β → Prop} {xs : List α} {ys : List β}
    (each : List.Forall₂ R xs ys) {y : β} (member : y ∈ ys) : ∃ x ∈ xs, R x y :=
  exists_of_mem_left each.flip member

theorem exists_forall₂_iff {R : α → β → Prop} {xs : List α} :
    (∃ ys, List.Forall₂ R xs ys) ↔ ∀ x ∈ xs, ∃ y, R x y := by
  induction xs with
  | nil => simp
  | cons x xs ih =>
    rw [List.forall_mem_cons, ← ih]
    constructor
    · rintro ⟨_, _ | ⟨head, tail⟩⟩
      exact ⟨⟨_, head⟩, _, tail⟩
    · rintro ⟨⟨y, head⟩, ys, tail⟩
      exact ⟨y :: ys, .cons head tail⟩

theorem mapM_eq_ok {k : α → Except ε β} {xs : List α} {ys : List β} :
    xs.mapM k = .ok ys ↔ List.Forall₂ (fun x y => k x = .ok y) xs ys := by
  induction xs generalizing ys with
  | nil =>
    rw [List.mapM_nil, List.forall₂_nil_left_iff]
    exact ⟨fun h => (Except.ok.inj h).symm, fun h => h ▸ rfl⟩
  | cons x xs ih =>
    simp only [List.mapM_cons, bind_eq_ok, ih, List.forall₂_cons_left_iff]
    constructor
    · rintro ⟨y, head, ys, tail, same⟩
      exact ⟨y, ys, head, tail, (Except.ok.inj same).symm⟩
    · rintro ⟨y, ys, head, tail, rfl⟩
      exact ⟨y, head, ys, tail, rfl⟩

theorem mapM_eq_some {k : α → Option β} {xs : List α} {ys : List β} :
    xs.mapM k = some ys ↔ List.Forall₂ (fun x y => k x = some y) xs ys := by
  induction xs generalizing ys with
  | nil => simp [eq_comm]
  | cons x xs ih =>
    simp only [List.mapM_cons, List.forall₂_cons_left_iff, ← ih, Option.bind_eq_bind,
      Option.bind_eq_some_iff, Option.pure_def, Option.some.injEq]
    constructor
    · rintro ⟨y, head, ys, tail, rfl⟩
      exact ⟨y, ys, head, tail, rfl⟩
    · rintro ⟨y, ys, head, tail, rfl⟩
      exact ⟨y, head, ys, tail, rfl⟩

theorem mapM_map_eq_some {γ : Type} {k : β → Option γ} {g : α → β} {r : α → γ} {xs : List α}
    (each : ∀ x ∈ xs, k (g x) = some (r x)) : (xs.map g).mapM k = some (xs.map r) := by
  induction xs with
  | nil => rfl
  | cons x xs ih =>
    obtain ⟨first, rest⟩ := List.forall_mem_cons.1 each
    simp [first, ih rest]

theorem mapM_eq_error {k : α → Except ε β} {xs : List α} {e : ε} :
    xs.mapM k = .error e ↔ ∃ before x after, xs = before ++ x :: after ∧
      (∀ y ∈ before, ∃ b, k y = .ok b) ∧ k x = .error e := by
  constructor
  · intro h
    induction xs with
    | nil => cases h
    | cons x xs ih =>
      rw [List.mapM_cons] at h
      rcases bind_eq_error.1 h with failed | ⟨y, first, h⟩
      · exact ⟨[], x, xs, rfl, nofun, failed⟩
      · rcases bind_eq_error.1 h with rest | ⟨ys, -, h⟩
        · obtain ⟨before, x', after, rfl, earlier, failed⟩ := ih rest
          exact ⟨x :: before, x', after, rfl, List.forall_mem_cons.2 ⟨⟨y, first⟩, earlier⟩, failed⟩
        · cases h
  · rintro ⟨before, x, after, rfl, earlier, failed⟩
    induction before with
    | nil =>
      rw [List.nil_append, List.mapM_cons, failed]
      rfl
    | cons y before ih =>
      obtain ⟨⟨b, first⟩, earlier⟩ := List.forall_mem_cons.1 earlier
      rw [List.cons_append, List.mapM_cons, first, ih earlier]
      rfl

theorem exists_of_mapM_eq_error {k : α → Except ε β} {xs : List α} {e : ε}
    (h : xs.mapM k = .error e) : ∃ x ∈ xs, k x = .error e := by
  obtain ⟨before, x, after, rfl, -, failed⟩ := mapM_eq_error.1 h
  exact ⟨x, List.mem_append_cons_self, failed⟩

theorem exists_first_not {P : α → Prop} {xs : List α} (some : ¬ ∀ x ∈ xs, P x) :
    ∃ before x after, xs = before ++ x :: after ∧ (∀ y ∈ before, P y) ∧ ¬ P x := by
  induction xs with
  | nil => exact absurd nofun some
  | cons x xs ih =>
    by_cases head : P x
    · obtain ⟨before, x', after, rfl, earlier, fails⟩ :=
        ih fun rest => some (List.forall_mem_cons.2 ⟨head, rest⟩)
      exact ⟨x :: before, x', after, rfl, List.forall_mem_cons.2 ⟨head, earlier⟩, fails⟩
    · exact ⟨[], x, xs, rfl, nofun, head⟩

theorem first_not_unique {P : α → Prop} {before before' after after' : List α} {x x' : α}
    (same : before ++ x :: after = before' ++ x' :: after') (earlier : ∀ y ∈ before, P y)
    (fails : ¬ P x) (earlier' : ∀ y ∈ before', P y) (fails' : ¬ P x') : x = x' := by
  induction before generalizing before' with
  | nil =>
    cases before' with
    | nil => exact (List.cons.inj same).1
    | cons y _ => exact absurd ((List.cons.inj same).1 ▸ earlier' y List.mem_cons_self) fails
  | cons y before ih =>
    cases before' with
    | nil => exact absurd ((List.cons.inj same).1 ▸ earlier y List.mem_cons_self) fails'
    | cons y' before' =>
      exact ih (List.cons.inj same).2 (List.forall_mem_cons.1 earlier).2
        (List.forall_mem_cons.1 earlier').2

end CqlClient
