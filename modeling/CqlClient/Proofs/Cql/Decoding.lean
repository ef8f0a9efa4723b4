import CqlClient.Proofs.Binary.Widening
import CqlClient.Proofs.Cql.RoundTrip

/-!
# What decoding keeps

A null in a row stands for a missing value. `CqlValue.decoded_null_iff` says which values are
decoded to null as well, and which parts of a value bring a null into its JSON form: those without
content, and decimals of more than 16 bytes. Any other decimal is decoded to a text that denotes it,
unless it has too many places to be written.
-/

namespace CqlClient

namespace Json

theorem exists_null_of_isPart_arr {α : Type} {read : α → Json} {xs : List α}
    (within : IsPart .null (.arr (xs.map read))) : ∃ x ∈ xs, IsPart .null (read x) := by
  cases within with
  | item decoded within =>
    obtain ⟨x, among, rfl⟩ := List.mem_map.1 decoded
    exact ⟨x, among, within⟩

theorem exists_null_of_isPart_ofMembers {members : Members}
    (within : IsPart .null (ofMembers members)) : ∃ m ∈ members, IsPart .null m.2 := by
  cases within with
  | member among within => exact ⟨_, Members.mem_of_mem_normalize among, within⟩

def IsLeaf : Json → Prop
  | .arr _ => False
  | .obj _ => False
  | _ => True

theorem IsPart.eq_of_isLeaf {part v : Json} (leaf : v.IsLeaf) (within : IsPart part v) :
    v = part := by
  cases within with
  | self => rfl
  | item => exact leaf.elim
  | member => exact leaf.elim

end Json

namespace CqlValue

variable {c d : CqlValue} {unscaled : List UInt8} {scale : Int}

/-! ## Null -/

/-- Nothing, or a number that has no digits. -/
def IsVoid : CqlValue → Prop
  | .empty => True
  | .float x => ¬ x.reading.IsFinite
  | .double x => ¬ x.reading.IsFinite
  | .decimal unscaled _ => unscaled = []
  | _ => False

/-- A decimal of more than 128 bits. -/
def IsOversize : CqlValue → Prop
  | .decimal unscaled _ => 16 < unscaled.length
  | _ => False

theorem floatJson_eq_null_iff {x : Double} : floatJson x = .null ↔ ¬ x.isFinite := by
  unfold floatJson
  split <;> simp [*]

theorem decimalJson_eq_null_iff :
    decimalJson unscaled scale = .null ↔ unscaled = [] ∨ 16 < unscaled.length := by
  rw [decimalJson, TwosComplement.ofBytes?]
  by_cases outside : unscaled = [] ∨ 16 < unscaled.length
  · rw [if_pos outside]
    exact iff_of_true rfl outside
  · rw [if_neg outside]
    refine iff_of_false (fun null => ?_) outside
    cases null

theorem decimalJson_denotes (filled : unscaled ≠ []) (fits : unscaled.length ≤ 16) :
    ∃ s, decimalJson unscaled scale = .str s ∧
      Denotes s.toList (TwosComplement.value unscaled * 10 ^ (-scale)) := by
  have read : TwosComplement.ofBytes? unscaled = some (TwosComplement.signed unscaled) :=
    if_neg (not_or.2 ⟨filled, Nat.not_lt.2 fits⟩)
  refine ⟨_, by rw [decimalJson, read], ?_⟩
  rw [String.toList_ofList, ← TwosComplement.signed_eq_value]
  exact DecimalText.denotes_chars _ scale

theorem toJson_eq_null_iff : c.toJson = .null ↔ c.IsVoid ∨ c.IsOversize := by
  cases c with
  | float x =>
    rw [toJson, floatJson_eq_null_iff, Single.isFinite_toDouble]
    exact (or_iff_left id).symm
  | double x =>
    rw [toJson, floatJson_eq_null_iff, Double.isFinite_iff]
    exact (or_iff_left id).symm
  | decimal unscaled scale =>
    rw [toJson, decimalJson_eq_null_iff]
    rfl
  | empty => exact iff_of_true rfl (.inl trivial)
  | timestamp | date | time | map =>
    refine iff_of_false (fun null => ?_) (not_or.2 ⟨id, id⟩)
    simp only [toJson, timestampJson, dateJson, timeJson] at null
    split at null <;> cases null
  | _ =>
    refine iff_of_false (fun null => ?_) (not_or.2 ⟨id, id⟩)
    rw [toJson] at null
    cases null

theorem cellsToJson_eq (items : List (Option CqlValue)) :
    cellsToJson items = items.map cellToJson := by
  induction items with
  | nil => rfl
  | cons cell items ih => cases cell <;> rw [cellsToJson, ih, List.map_cons, cellToJson]

theorem fieldsToJson_eq (fields : List (String × Option CqlValue)) :
    fieldsToJson fields = fields.map fun f => (f.1, cellToJson f.2) := by
  induction fields with
  | nil => rfl
  | cons f fields ih =>
    obtain ⟨name, cell⟩ := f
    cases cell <;> rw [fieldsToJson, ih, List.map_cons, cellToJson]

/-- A null in the JSON form of a value is all of it, or is in that of a component. -/
theorem exists_null_component (within : Json.IsPart .null c.toJson) :
    c.toJson = .null ∨ ∃ cell ∈ c.components, Json.IsPart .null (cellToJson cell) := by
  cases c with
  | list items | set items =>
    rw [toJson, itemsToJson_eq] at within
    obtain ⟨d, among, within⟩ := Json.exists_null_of_isPart_arr within
    exact .inr ⟨some d, List.mem_map_of_mem among, within⟩
  | map entries =>
    rw [toJson] at within
    split at within
    -- of entries with one key the object keeps the last, so that only membership is left to use
    · obtain ⟨m, decoded, within⟩ := Json.exists_null_of_isPart_ofMembers within
      have decoded : m.2 ∈ valuesToJson entries := (List.of_mem_zip decoded).2
      rw [valuesToJson_eq] at decoded
      obtain ⟨e, among, read⟩ := List.mem_map.1 decoded
      refine .inr ⟨some e.2, List.mem_append_right _ (List.mem_map_of_mem among), ?_⟩
      rwa [cellToJson, read]
    · rw [entriesToJson_eq] at within
      obtain ⟨e, among, pair⟩ := Json.exists_null_of_isPart_arr within
      have pair : Json.IsPart .null (.arr ([e.1, e.2].map toJson)) := pair
      obtain ⟨d, either, within⟩ := Json.exists_null_of_isPart_arr pair
      refine .inr ⟨some d, List.mem_append.2 ?_, within⟩
      rcases List.mem_pair.1 either with rfl | rfl
      · exact .inl (List.mem_map_of_mem among)
      · exact .inr (List.mem_map_of_mem among)
  | tuple items =>
    rw [toJson, cellsToJson_eq] at within
    exact .inr (Json.exists_null_of_isPart_arr within)
  | userDefined keyspace name fields =>
    rw [toJson, fieldsToJson_eq] at within
    obtain ⟨m, decoded, within⟩ := Json.exists_null_of_isPart_ofMembers within
    obtain ⟨f, among, rfl⟩ := List.mem_map.1 decoded
    exact .inr ⟨f.2, List.mem_map_of_mem among, within⟩
  | blob bytes =>
    rw [toJson] at within
    obtain ⟨_, -, within⟩ := Json.exists_null_of_isPart_arr within
    cases within
  | duration months days nanoseconds =>
    rw [toJson] at within
    cases within with
    | member among within =>
      simp only [List.mem_cons, Prod.mk.injEq, List.not_mem_nil, or_false] at among
      rcases among with ⟨-, rfl⟩ | ⟨-, rfl⟩ | ⟨-, rfl⟩ <;> cases within
  | float | double | decimal | timestamp | date | time =>
    refine .inl (within.eq_of_isLeaf ?_)
    simp only [toJson, floatJson, decimalJson, timestampJson, dateJson, timeJson]
    split <;> trivial
  | _ => exact .inl (within.eq_of_isLeaf (by rw [toJson]; trivial))

/-- A null in the JSON form of a value comes from a part that is decoded to null, or is unset. -/
theorem exists_null_part : Json.IsPart .null c.toJson →
    ∃ d : CqlValue, d.IsPart c ∧ (d.toJson = .null ∨ none ∈ d.components) := by
  induction c using induct with
  | step c ih =>
    intro within
    rcases exists_null_component within with null | ⟨_ | d, among, within⟩
    · exact ⟨c, .self, .inl null⟩
    · exact ⟨c, .self, .inr among⟩
    · obtain ⟨part, below, null⟩ := ih d among within
      exact ⟨part, .component among below, null⟩

theorem isWritten_of_null (null : c.IsVoid ∨ c.IsOversize) : c.isWritten := by
  cases c with
  | decimal unscaled scale =>
    refine decimalIsWritten_iff.2 fun overlong => ?_
    rcases null with empty | long
    · exact overlong.1 empty
    · exact absurd overlong.2.1 (Nat.not_le.2 long)
  | float | double | empty => rfl
  | _ => exact null.elim False.elim False.elim

/-- Only a value that is void or a decimal of more than 16 bytes is decoded to null. A null inside a
JSON form comes from such a part, or from an unset component. The program stops just at a decimal of
too many places. Any other decimal is decoded to a text that denotes it. -/
theorem decoded_null_iff (c : CqlValue) :
    (c.decode? = some .null ↔ c.IsVoid ∨ c.IsOversize) ∧
    (∀ v, c.decode? = some v → Json.IsPart .null v →
      ∃ d : CqlValue, d.IsPart c ∧ (d.IsVoid ∨ d.IsOversize ∨ none ∈ d.components)) ∧
    (c.decode? = none ↔ ∃ d : CqlValue, d.IsPart c ∧ d.IsOverlong) ∧
    ∀ unscaled scale, c = .decimal unscaled scale → unscaled ≠ [] → unscaled.length ≤ 16 →
      scale < 65535 → ∃ s, c.decode? = some (.str s) ∧
        Denotes s.toList (TwosComplement.value unscaled * 10 ^ (-scale)) := by
  refine ⟨?_, ?_, decode?_eq_none_iff, ?_⟩
  · rw [decode?_eq_some_iff, toJson_eq_null_iff]
    exact and_iff_right_of_imp isWritten_of_null
  · rintro v decoded within
    obtain ⟨-, rfl⟩ := decode?_eq_some_iff.1 decoded
    obtain ⟨d, part, lost⟩ := exists_null_part within
    exact ⟨d, part, or_assoc.1 (lost.imp_left toJson_eq_null_iff.1)⟩
  · rintro unscaled scale rfl filled fits short
    obtain ⟨s, same, denotes⟩ := @decimalJson_denotes unscaled scale filled fits
    have written : decimalIsWritten unscaled scale :=
      decimalIsWritten_iff.2 fun overlong => absurd overlong.2.2 (Int.not_le.2 short)
    exact ⟨s, decode?_eq_some_iff.2 ⟨written, by rw [toJson, same]⟩, denotes⟩

/-- The decimal `2 ^ 128` has 17 bytes and is decoded to null, also inside a set, in which the
greatest one of 16 bytes is kept. -/
theorem greater_decimal_lost :
    let greater : List UInt8 := 1 :: List.replicate 16 0
    let great : List UInt8 := 127 :: List.replicate 15 255
    TwosComplement.value greater = 2 ^ 128 ∧ decode? (.decimal greater 0) = some .null ∧
      ∃ s, decode? (.set [.decimal great 3, .decimal greater 0]) = some (.arr [.str s, .null]) ∧
        Denotes s.toList ((2 ^ 127 - 1) * 10 ^ (-3 : Int)) := by
  intro greater great
  have lost : decode? (.decimal greater 0) = some .null :=
    (decoded_null_iff (.decimal greater 0)).1.2 (.inr (show 16 < greater.length by decide))
  obtain ⟨s, kept, denotes⟩ := (decoded_null_iff (.decimal great 3)).2.2.2 great 3 rfl
    (List.cons_ne_nil _ _) (by decide) (by decide)
  have most : TwosComplement.value great = 2 ^ 127 - 1 := by decide
  refine ⟨by decide, lost, s, ?_, ?_⟩
  · obtain ⟨written, kept⟩ := decode?_eq_some_iff.1 kept
    obtain ⟨written', lost⟩ := decode?_eq_some_iff.1 lost
    rw [decode?_eq_some_iff, isWritten, itemsAreWritten_iff, toJson, itemsToJson_eq, List.map_cons,
      List.map_cons, List.map_nil, kept, lost]
    exact ⟨List.forall_mem_cons.2 ⟨written, List.forall_mem_singleton.2 written'⟩, rfl⟩
  · rw [most] at denotes
    exact_mod_cast denotes

end CqlValue

end CqlClient
