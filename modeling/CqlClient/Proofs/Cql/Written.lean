import CqlClient.Cql.Decode
import CqlClient.Proofs.Cql.Numeral

/-!
# What can be decoded

A value is decoded unless the program stops at a part of it. By `CqlValue.decode?_eq_none_iff` these
parts are the decimals with too many places.
-/

namespace CqlClient.CqlValue

variable {c d : CqlValue} {unscaled : List UInt8} {scale : Int}

/-! ## Parts -/

/-- What a value is made of as it is decoded, `none` for what is unset. Vectors are decoded as a
whole. -/
def components : CqlValue → List (Option CqlValue)
  | .list items => items.map some
  | .set items => items.map some
  | .map entries => entries.map (fun e => some e.1) ++ entries.map fun e => some e.2
  | .tuple items => items
  | .userDefined _ _ fields => fields.map Prod.snd
  | _ => []

/-- A value itself, or what it is made of at some depth. -/
inductive IsPart (part : CqlValue) : CqlValue → Prop
  | self : IsPart part part
  | component {c d : CqlValue} (among : some d ∈ c.components) (within : IsPart part d) :
      IsPart part c

theorem sizeOf_lt_of_mem_components (among : some d ∈ c.components) : sizeOf d < sizeOf c := by
  cases c with
  | list items | set items =>
    have : d ∈ items := List.mem_map_of_injective (Option.some_injective _) |>.1 among
    have := List.sizeOf_lt_of_mem this
    simp only [list.sizeOf_spec, set.sizeOf_spec]
    omega
  | map entries =>
    obtain ⟨⟨k, v⟩, among, either⟩ : ∃ e ∈ entries, e.1 = d ∨ e.2 = d := by
      simp only [components, List.mem_append, List.mem_map, Option.some.injEq] at among
      rcases among with ⟨e, among, key⟩ | ⟨e, among, value⟩
      · exact ⟨e, among, .inl key⟩
      · exact ⟨e, among, .inr value⟩
    have := List.sizeOf_lt_of_mem among
    simp only [map.sizeOf_spec, Prod.mk.sizeOf_spec] at *
    rcases either with rfl | rfl <;> omega
  | tuple items =>
    have := List.sizeOf_lt_of_mem (show some d ∈ items from among)
    simp only [tuple.sizeOf_spec, Option.some.sizeOf_spec] at *
    omega
  | userDefined keyspace name fields =>
    obtain ⟨⟨label, _⟩, among, rfl⟩ := List.mem_map.1 among
    have := List.sizeOf_lt_of_mem among
    simp only [userDefined.sizeOf_spec, Prod.mk.sizeOf_spec, Option.some.sizeOf_spec] at *
    omega
  | _ => cases among

theorem induct {P : CqlValue → Prop} (step : ∀ c, (∀ d, some d ∈ c.components → P d) → P c)
    (c : CqlValue) : P c :=
  step c fun d _ => induct step d
termination_by sizeOf c
decreasing_by exact sizeOf_lt_of_mem_components ‹_›

/-! ## Writing -/

/-- A decimal of 1 to 16 bytes that has more places than can be padded. -/
def IsOverlong : CqlValue → Prop
  | .decimal unscaled scale => unscaled ≠ [] ∧ unscaled.length ≤ 16 ∧ 65535 ≤ scale
  | _ => False

theorem decimalIsWritten_iff :
    decimalIsWritten unscaled scale ↔ ¬ (decimal unscaled scale).IsOverlong := by
  rw [decimalIsWritten, TwosComplement.ofBytes?, IsOverlong]
  by_cases outside : unscaled = [] ∨ 16 < unscaled.length
  · rw [if_pos outside]
    refine iff_of_true rfl fun overlong => ?_
    rcases outside with empty | long
    · exact overlong.1 empty
    · exact absurd overlong.2.1 (by omega)
  · obtain ⟨filled, fits⟩ := not_or.1 outside
    rw [if_neg outside]
    dsimp only
    rw [Option.isSome_iff_exists]
    simp only [DecimalText.write?_eq_some_iff, exists_and_left, exists_eq', and_true]
    constructor
    · rintro short ⟨-, -, long⟩
      omega
    · intro short
      by_contra long
      exact short ⟨filled, Nat.not_lt.1 fits, Int.not_lt.1 long⟩

theorem itemsAreWritten_iff {items : List CqlValue} :
    itemsAreWritten items ↔ ∀ v ∈ items, v.isWritten := by
  induction items with
  | nil => simp [itemsAreWritten]
  | cons v items ih => rw [itemsAreWritten, Bool.and_eq_true, ih, List.forall_mem_cons]

theorem entriesAreWritten_iff {entries : List (CqlValue × CqlValue)} :
    entriesAreWritten entries ↔ ∀ e ∈ entries, e.1.isWritten ∧ e.2.isWritten := by
  induction entries with
  | nil => simp [entriesAreWritten]
  | cons e entries ih =>
    rw [entriesAreWritten, Bool.and_eq_true, Bool.and_eq_true, ih, List.forall_mem_cons]

theorem cellsAreWritten_iff {items : List (Option CqlValue)} :
    cellsAreWritten items ↔ ∀ v, some v ∈ items → v.isWritten := by
  induction items with
  | nil => simp [cellsAreWritten]
  | cons cell items ih => cases cell <;> simp [cellsAreWritten, ih]

theorem fieldsAreWritten_iff {fields : List (String × Option CqlValue)} :
    fieldsAreWritten fields ↔ ∀ v, some v ∈ fields.map Prod.snd → v.isWritten := by
  induction fields with
  | nil => simp [fieldsAreWritten]
  | cons f fields ih =>
    obtain ⟨name, cell⟩ := f
    cases cell <;> simp [fieldsAreWritten, ih]

theorem isWritten_iff_components :
    c.isWritten ↔ ¬ c.IsOverlong ∧ ∀ d, some d ∈ c.components → d.isWritten := by
  cases c with
  | decimal unscaled scale =>
    rw [isWritten, decimalIsWritten_iff]
    exact (and_iff_left nofun).symm
  | list items | set items => simp [isWritten, itemsAreWritten_iff, IsOverlong, components]
  | map entries =>
    simp only [isWritten, entriesAreWritten_iff, IsOverlong, components, not_false_eq_true, true_and,
      List.mem_append, List.mem_map, Option.some.injEq]
    constructor
    · rintro each d (⟨e, among, rfl⟩ | ⟨e, among, rfl⟩)
      · exact (each e among).1
      · exact (each e among).2
    · intro each e among
      exact ⟨each _ (.inl ⟨e, among, rfl⟩), each _ (.inr ⟨e, among, rfl⟩)⟩
  | tuple items => simp [isWritten, cellsAreWritten_iff, IsOverlong, components]
  | userDefined keyspace name fields =>
    simp only [isWritten, fieldsAreWritten_iff, IsOverlong, components, not_false_eq_true, true_and]
  | _ => exact iff_of_true rfl ⟨id, nofun⟩

theorem isWritten_iff : c.isWritten ↔ ∀ d : CqlValue, d.IsPart c → ¬ d.IsOverlong := by
  induction c using induct with
  | step c ih =>
    rw [isWritten_iff_components]
    constructor
    · rintro ⟨short, each⟩ d part
      cases part with
      | self => exact short
      | component among within => exact (ih _ among).1 (each _ among) d within
    · intro short
      exact ⟨short c .self, fun d among =>
        (ih d among).2 fun part within => short part (.component among within)⟩

theorem decode?_eq_some_iff {v : Json} : c.decode? = some v ↔ c.isWritten ∧ c.toJson = v := by
  rw [decode?, Option.ite_none_right_eq_some, Option.some.injEq]

theorem decode?_eq_none : c.decode? = none ↔ ¬ c.isWritten := by
  rw [decode?, ite_eq_right_iff, imp_iff_not (Option.some_ne_none _)]

/-- The program stops just at a part that is a decimal with too many places. -/
theorem decode?_eq_none_iff : c.decode? = none ↔ ∃ d : CqlValue, d.IsPart c ∧ d.IsOverlong := by
  rw [decode?_eq_none, isWritten_iff]
  simp only [not_forall, not_not, exists_prop]

end CqlClient.CqlValue
