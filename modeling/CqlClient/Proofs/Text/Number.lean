import CqlClient.Json.Text

/-!
# Characters of numbers

The text of a number holds no character but digits and the few that go with them, and an integer is
read back from its text.
-/

namespace CqlClient

/-- A character that the text of a number may hold. -/
def IsNumeric (c : Char) : Prop := c.isDigit ∨ c ∈ ['-', '+', '.', 'e', 'n', 'u', 'l']

instance (c : Char) : Decidable (IsNumeric c) := inferInstanceAs (Decidable (_ ∨ _))

theorem isNumeric_of_mem_toDigits {n : Nat} {c : Char} (h : c ∈ Nat.toDigits 10 n) :
    IsNumeric c :=
  .inl (Nat.isDigit_of_mem_toDigits (by decide) (by decide) h)

theorem isNumeric_of_mem_toString {n : Nat} {c : Char} (h : c ∈ (toString n).toList) :
    IsNumeric c := by
  rw [Nat.toString_eq_repr, Nat.toList_repr] at h
  exact isNumeric_of_mem_toDigits h

theorem isNumeric_of_mem_intChars {n : Int} {c : Char} (h : c ∈ Text.intChars n) :
    IsNumeric c := by
  unfold Text.intChars at h
  split at h
  · rcases List.mem_cons.1 h with rfl | h
    · exact .inr (by decide)
    · exact isNumeric_of_mem_toDigits h
  · exact isNumeric_of_mem_toDigits h

theorem mem_of_mem_dropTrailingZeros {digits : List Char} {exponent : Int} {c : Char}
    (h : c ∈ (dropTrailingZeros digits exponent).1) : c ∈ digits := by
  fun_induction dropTrailingZeros digits exponent with
  | case1 d rest exponent ih => exact List.mem_cons_of_mem _ (ih h)
  | case2 digits exponent _ => exact List.mem_reverse.1 h

namespace NumberStyle

variable {style : NumberStyle} {c : Char}

theorem isNumeric_of_mem_exponentText {e : Int} (h : c ∈ (style.exponentText e).toList) :
    IsNumeric c := by
  simp only [exponentText, String.toList_append, List.mem_append] at h
  rcases h with (h | h) | h
  · exact .inr (by simp_all)
  · split at h
    · exact .inr (by simp_all)
    · split at h
      · exact .inr (by simp_all)
      · simp at h
  · exact isNumeric_of_mem_toString h

theorem isNumeric_of_mem_layOut {ds : List Char} {leading : Int} (hd : ∀ d ∈ ds, IsNumeric d)
    (h : c ∈ (style.layOut ds leading).toList) : IsNumeric c := by
  have zero : IsNumeric '0' := .inl (by decide)
  have point : IsNumeric '.' := .inr (by decide)
  have part {ds' : List Char} (sub : ds'.Sublist ds) (member : c ∈ ds') : IsNumeric c :=
    hd c (sub.subset member)
  unfold layOut at h
  split at h
  · split at h
    · simp only [String.toList_ofList, List.mem_cons, List.mem_append, List.mem_replicate] at h
      rcases h with rfl | rfl | ⟨-, rfl⟩ | h
      · exact zero
      · exact point
      · exact zero
      · exact hd c h
    · simp only [String.toList_ofList, List.mem_cons, List.mem_append, List.mem_replicate] at h
      rcases h with (h | ⟨-, rfl⟩) | rfl | h
      · exact part (List.take_sublist _ _) h
      · exact zero
      · exact point
      · split at h
        · obtain rfl := List.mem_singleton.1 h
          exact zero
        · exact part (List.drop_sublist _ _) h
  · simp only [String.toList_append, String.toList_ofList, List.mem_append] at h
    rcases h with (h | h) | h
    · exact part (List.take_sublist _ _) h
    · split at h
      · rcases List.mem_cons.1 h with rfl | h
        · exact point
        · exact part (List.drop_sublist _ _) h
      · cases h
    · exact isNumeric_of_mem_exponentText h

theorem isNumeric_of_mem_magnitudeText {f : BinaryFormat} {x : Magnitude}
    (h : c ∈ (style.magnitudeText f x).toList) : IsNumeric c := by
  unfold magnitudeText at h
  split at h
  · have : c ∈ ['0', '.', '0'] := h
    simp only [List.mem_cons, List.not_mem_nil, or_false] at this
    rcases this with rfl | rfl | rfl
    · exact .inl (by decide)
    · exact .inr (by decide)
    · exact .inl (by decide)
  · refine isNumeric_of_mem_layOut (fun d member => ?_) h
    have digit := List.mem_reverse.1 (mem_of_mem_dropTrailingZeros member)
    exact isNumeric_of_mem_toString digit

end NumberStyle

theorem isNumeric_of_mem_floatText {x : Double} {c : Char} (h : c ∈ (Json.floatText x).toList) :
    IsNumeric c := by
  unfold Json.floatText at h
  split at h
  · rename_i finite
    unfold Double.isFinite at finite
    split at finite
    · rename_i negative m reading
      rw [reading, NumberStyle.text, String.toList_append, List.mem_append] at h
      rcases h with h | h
      · split at h
        · exact .inr (by simp_all)
        · simp at h
      · exact NumberStyle.isNumeric_of_mem_magnitudeText h
    · cases finite
  · exact .inr (by simp_all)

/-! ## Numbers have a character -/

theorem natOfDigits?_toDigits (n : Nat) : Text.natOfDigits? (Nat.toDigits 10 n) = some n := by
  have digits : (Nat.toDigits 10 n).all Char.isDigit = true :=
    List.all_eq_true.2 fun c => Nat.isDigit_of_mem_toDigits (by decide) (by decide)
  rw [Text.natOfDigits?, if_pos ⟨Nat.toDigits_ne_nil, digits⟩,
    Nat.ofDigitChars_toDigits (by decide) (by decide)]

theorem intOfDigits?_intChars (n : Int) : Text.intOfDigits? (Text.intChars n) = some n := by
  have unsigned {c : Char} {cs : List Char} (eq : Nat.toDigits 10 n.natAbs = c :: cs) : c.isDigit :=
    Nat.isDigit_of_mem_toDigits (by decide) (by decide) (eq ▸ List.mem_cons_self)
  rw [Text.intChars]
  split
  · rename_i negative
    have same : -(n.natAbs : Int) = n := by omega
    rw [Text.intOfDigits?, natOfDigits?_toDigits]
    exact congrArg some same
  · rename_i nonnegative
    have same : (n.natAbs : Int) = n := by omega
    unfold Text.intOfDigits?
    split
    · rename_i cs eq
      exact absurd (unsigned eq) (by decide)
    · rename_i cs eq
      exact absurd (unsigned eq) (by decide)
    · rw [natOfDigits?_toDigits]
      exact congrArg some same

theorem intChars_ne_nil (n : Int) : Text.intChars n ≠ [] := by
  rw [Text.intChars]
  split
  · simp
  · exact Nat.toDigits_ne_nil

theorem NumberStyle.layOut_ne_nil (style : NumberStyle) (ds : List Char) (leading : Int) :
    (style.layOut ds leading).toList ≠ [] := by
  rw [layOut]
  split
  · split <;> simp
  · simp [exponentText]

theorem NumberStyle.magnitudeText_ne_nil (style : NumberStyle) (f : BinaryFormat) (x : Magnitude) :
    (style.magnitudeText f x).toList ≠ [] := by
  rw [magnitudeText]
  split
  · decide
  · exact layOut_ne_nil style _ _

theorem floatText_ne_nil (x : Double) : (Json.floatText x).toList ≠ [] := by
  rw [Json.floatText]
  split
  · unfold NumberStyle.text
    split
    · rw [String.toList_append]
      exact List.append_ne_nil_of_right_ne_nil _ (NumberStyle.magnitudeText_ne_nil _ _ _)
    · split <;> decide
    · decide
  · decide

end CqlClient
