import CqlClient.Proofs.Cql.Typing
import CqlClient.Proofs.Cql.Written

/-!
# Decimals as parameters

A text is bound as a decimal if it spells a number there is room for. The only other texts that are
bound have a sign after a point at their head, by `CqlValue.boundAsSpelled_iff`. By
`CqlValue.decimal_written_iff` a decimal of fewer than 65535 places is written as a numeral of its
value, which is bound to the same decimal if the scale is not negative.
-/

namespace CqlClient

/-! ## Spellings -/

inductive Sign where
  | unsigned
  | plus
  | minus

namespace Sign

def chars : Sign → List Char
  | .unsigned => []
  | .plus => ['+']
  | .minus => ['-']

def apply {α : Type} [Neg α] : Sign → α → α
  | .minus, x => -x
  | _, x => x

theorem point_notMem_chars (sign : Sign) : '.' ∉ sign.chars := by
  cases sign <;> decide

/-- A sign at the head of two texts in a row is at the head of the first, or of the second if the
first is empty. -/
theorem front_of_append_eq {sign : Sign} {front back ds : List Char}
    (glued : front ++ back = sign.chars ++ ds) :
    (∃ rest, front = sign.chars ++ rest ∧ ds = rest ++ back) ∨
    sign ≠ .unsigned ∧ front = [] ∧ back = sign.chars ++ ds := by
  by_cases signed : sign = .unsigned
  · rw [signed] at glued ⊢
    exact .inl ⟨front, rfl, glued.symm⟩
  · obtain ⟨c, single⟩ : ∃ c, sign.chars = [c] := by
      cases sign with
      | unsigned => exact absurd rfl signed
      | plus => exact ⟨_, rfl⟩
      | minus => exact ⟨_, rfl⟩
    rw [single] at glued ⊢
    cases front with
    | nil => exact .inr ⟨signed, rfl, glued⟩
    | cons a rest =>
      obtain ⟨rfl, rest_eq⟩ := List.cons.inj glued
      exact .inl ⟨rest, rfl, rest_eq.symm⟩

end Sign

/-- The point with what follows it, if there is one. -/
def pointed : Option (List Char) → List Char
  | none => []
  | some ds => '.' :: ds

/-- A sign or none, then digits with at most one point among them. -/
structure Spelling where
  sign : Sign
  integer : List Char
  fraction : Option (List Char)
  digits : ∀ d ∈ integer ++ fraction.getD [], d.isDigit
  ne_nil : integer ++ fraction.getD [] ≠ []

namespace Spelling

def chars (t : Spelling) : List Char := t.sign.chars ++ (t.integer ++ pointed t.fraction)

def places (t : Spelling) : Nat := (t.fraction.getD []).length

/-- The integer that is left without the point. -/
def unscaled (t : Spelling) : Int :=
  t.sign.apply (Nat.ofDigitChars 10 (t.integer ++ t.fraction.getD []) 0 : Int)

def value (t : Spelling) : ℚ :=
  t.sign.apply (Nat.ofDigitChars 10 t.integer 0 +
    Nat.ofDigitChars 10 (t.fraction.getD []) 0 / 10 ^ t.places : ℚ)

/-- There is room for the integer and for the number of places. -/
def Fits (t : Spelling) : Prop := TwosComplement.InRange t.unscaled ∧ t.places < 2 ^ 31

theorem point_notMem (t : Spelling) : '.' ∉ t.sign.chars ++ t.integer :=
  List.not_mem_append t.sign.point_notMem_chars fun among =>
    absurd (t.digits '.' (List.mem_append_left _ among)) (by decide)

theorem places_le_length (t : Spelling) : t.places ≤ t.chars.length := by
  rw [places, chars, List.length_append, List.length_append]
  cases t.fraction with
  | none => exact Nat.zero_le _
  | some ds =>
    rw [pointed, List.length_cons, Option.getD_some]
    omega

theorem value_eq (t : Spelling) : t.value = t.unscaled / 10 ^ t.places := by
  have glued : Nat.ofDigitChars 10 (t.integer ++ t.fraction.getD []) 0 =
      10 ^ t.places * Nat.ofDigitChars 10 t.integer 0 +
        Nat.ofDigitChars 10 (t.fraction.getD []) 0 := by
    rw [Nat.ofDigitChars_append, Nat.ofDigitChars_eq_ofDigitChars_zero]
    rfl
  rw [value, unscaled, glued]
  cases t.sign <;> simp only [Sign.apply] <;> push_cast <;> field_simp

end Spelling

/-! ## Reading -/

theorem natOfDigits?_eq_some_iff {cs : List Char} {n : Nat} : Text.natOfDigits? cs = some n ↔
    cs ≠ [] ∧ (∀ d ∈ cs, d.isDigit) ∧ n = Nat.ofDigitChars 10 cs 0 := by
  rw [Text.natOfDigits?, Option.ite_none_right_eq_some, List.all_eq_true, Option.some.injEq,
    and_assoc, eq_comm]

theorem intOfDigits?_eq_some_iff {cs : List Char} {n : Int} : Text.intOfDigits? cs = some n ↔
    ∃ (sign : Sign) (ds : List Char), cs = sign.chars ++ ds ∧ ds ≠ [] ∧ (∀ d ∈ ds, d.isDigit) ∧
      n = sign.apply (Nat.ofDigitChars 10 ds 0 : Int) := by
  constructor
  · intro h
    unfold Text.intOfDigits? at h
    split at h
    · rename_i ds
      obtain ⟨k, cast, rfl⟩ := Option.map_eq_some_iff.1 h
      obtain ⟨m, read, ⟨⟩⟩ := Option.bind_eq_some_iff.1 cast
      obtain ⟨filled, digits, rfl⟩ := natOfDigits?_eq_some_iff.1 read
      exact ⟨.minus, ds, rfl, filled, digits, rfl⟩
    · rename_i ds
      obtain ⟨m, read, rfl⟩ := Option.map_eq_some_iff.1 h
      obtain ⟨filled, digits, rfl⟩ := natOfDigits?_eq_some_iff.1 read
      exact ⟨.plus, ds, rfl, filled, digits, rfl⟩
    · obtain ⟨m, read, rfl⟩ := Option.map_eq_some_iff.1 h
      obtain ⟨filled, digits, rfl⟩ := natOfDigits?_eq_some_iff.1 read
      exact ⟨.unsigned, cs, rfl, filled, digits, rfl⟩
  · rintro ⟨sign, ds, rfl, filled, digits, rfl⟩
    have read := natOfDigits?_eq_some_iff.2 ⟨filled, digits, rfl⟩
    cases sign with
    | minus => rw [Sign.chars, List.singleton_append, Text.intOfDigits?, read]; rfl
    | plus => rw [Sign.chars, List.singleton_append, Text.intOfDigits?, read]; rfl
    | unsigned =>
      rw [Sign.chars, List.nil_append]
      unfold Text.intOfDigits?
      split
      · exact absurd (digits '-' List.mem_cons_self) (by decide)
      · exact absurd (digits '+' List.mem_cons_self) (by decide)
      · rw [read]
        rfl

namespace DecimalText

theorem splitPoint_append {integer : List Char} (absent : '.' ∉ integer)
    (fraction : Option (List Char)) :
    splitPoint (integer ++ pointed fraction) = (integer, fraction.getD []) := by
  induction integer with
  | nil => cases fraction <;> rfl
  | cons c integer ih =>
    obtain ⟨other, absent⟩ := not_or.1 (mt List.mem_cons.2 absent)
    rw [List.cons_append, splitPoint, if_neg (Ne.symm other), ih absent]

theorem exists_pointed (cs : List Char) :
    ∃ integer fraction, '.' ∉ integer ∧ cs = integer ++ pointed fraction := by
  by_cases point : '.' ∈ cs
  · obtain ⟨integer, fraction, rfl, absent⟩ := List.eq_append_cons_of_mem point
    exact ⟨integer, some fraction, absent, rfl⟩
  · exact ⟨cs, none, point, (List.append_nil cs).symm⟩

theorem read?_eq_some_iff_split {cs : List Char} {n scale : Int} : read? cs = some (n, scale) ↔
    ∃ integer fraction, '.' ∉ integer ∧ cs = integer ++ pointed fraction ∧
      Text.intOfDigits? (integer ++ fraction.getD []) = some n ∧ TwosComplement.InRange n ∧
      (fraction.getD []).length < 2 ^ 31 ∧ scale = (fraction.getD []).length := by
  have width : Nat.pow 2 31 = 2 ^ 31 := rfl
  have split (integer : List Char) (fraction : Option (List Char)) (absent : '.' ∉ integer) :
      read? (integer ++ pointed fraction) = some (n, scale) ↔
        Text.intOfDigits? (integer ++ fraction.getD []) = some n ∧ TwosComplement.InRange n ∧
          (fraction.getD []).length < 2 ^ 31 ∧ scale = (fraction.getD []).length := by
    rw [read?, splitPoint_append absent]
    dsimp only
    split
    · simp [*]
    · rename_i m read
      rw [read, Option.ite_none_right_eq_some, Option.some.injEq, Prod.mk.injEq, Option.some.injEq,
        width]
      constructor
      · rintro ⟨⟨inRange, short⟩, rfl, rfl⟩
        exact ⟨rfl, inRange, short, rfl⟩
      · rintro ⟨rfl, inRange, short, rfl⟩
        exact ⟨⟨inRange, short⟩, rfl, rfl⟩
  constructor
  · intro h
    obtain ⟨integer, fraction, absent, rfl⟩ := exists_pointed cs
    exact ⟨integer, fraction, absent, rfl, (split integer fraction absent).1 h⟩
  · rintro ⟨integer, fraction, absent, rfl, h⟩
    exact (split integer fraction absent).2 h

/-- A point, a sign, and digits that there is room for with the sign among the places. -/
structure SignAfterPoint (cs : List Char) (t : Spelling) : Prop where
  eq : cs = '.' :: t.chars
  signed : t.sign ≠ .unsigned
  whole : t.fraction = none
  inRange : TwosComplement.InRange t.unscaled
  short : t.chars.length < 2 ^ 31

theorem splitPoint_chars (t : Spelling) :
    splitPoint t.chars = (t.sign.chars ++ t.integer, t.fraction.getD []) := by
  rw [Spelling.chars, ← List.append_assoc]
  exact splitPoint_append t.point_notMem t.fraction

/-- In a spelling no sign follows the point. -/
theorem SignAfterPoint.not_spelled {cs : List Char} {t : Spelling} (late : SignAfterPoint cs t)
    (u : Spelling) : u.chars ≠ cs := by
  rintro rfl
  have split := splitPoint_chars u
  rw [late.eq, splitPoint, if_pos rfl] at split
  obtain ⟨-, back⟩ := Prod.mk.inj split
  have digits : ∀ c ∈ t.sign.chars, c.isDigit := by
    intro c among
    apply u.digits
    rw [← back]
    exact List.mem_append_right _ (List.mem_append_left _ among)
  cases signed : t.sign with
  | unsigned => exact late.signed signed
  | plus =>
    rw [signed] at digits
    exact absurd (digits '+' List.mem_cons_self) (by decide)
  | minus =>
    rw [signed] at digits
    exact absurd (digits '-' List.mem_cons_self) (by decide)

theorem read?_eq_some_iff {cs : List Char} {n scale : Int} : read? cs = some (n, scale) ↔
    (∃ t : Spelling, t.chars = cs ∧ t.Fits ∧ n = t.unscaled ∧ scale = t.places) ∨
    ∃ t, SignAfterPoint cs t ∧ n = t.unscaled ∧ scale = t.chars.length := by
  rw [read?_eq_some_iff_split]
  simp only [intOfDigits?_eq_some_iff]
  constructor
  · rintro ⟨integer, fraction, absent, rfl, ⟨sign, ds, glued, filled, digits, rfl⟩, inRange, short,
      rfl⟩
    rcases Sign.front_of_append_eq glued with ⟨rest, rfl, rfl⟩ | ⟨signed, rfl, late⟩
    · exact .inl ⟨⟨sign, rest, fraction, digits, filled⟩, (List.append_assoc _ _ _).symm,
        ⟨inRange, short⟩, rfl, rfl⟩
    · let t : Spelling := ⟨sign, ds, none, by simpa using digits, by simpa using filled⟩
      have chars : t.chars = fraction.getD [] := by
        rw [late, Spelling.chars, pointed, List.append_nil]
      have unscaled : t.unscaled = sign.apply (Nat.ofDigitChars 10 ds 0 : Int) := by
        rw [Spelling.unscaled, Option.getD_none, List.append_nil]
      rw [← chars] at short ⊢
      rw [← unscaled] at inRange ⊢
      refine .inr ⟨t, ⟨?_, signed, rfl, inRange, short⟩, rfl, rfl⟩
      cases fraction with
      | none => cases sign <;> cases late; exact absurd rfl signed
      | some text => rw [chars]; rfl
  · rintro (⟨t, rfl, ⟨inRange, short⟩, rfl, rfl⟩ | ⟨t, late, rfl, rfl⟩)
    · exact ⟨t.sign.chars ++ t.integer, t.fraction, t.point_notMem, (List.append_assoc _ _ _).symm,
        ⟨t.sign, _, List.append_assoc _ _ _, t.ne_nil, t.digits, rfl⟩, inRange, short, rfl⟩
    · have chars : t.chars = t.sign.chars ++ (t.integer ++ t.fraction.getD []) := by
        rw [Spelling.chars, late.whole]
        rfl
      exact ⟨[], some t.chars, List.not_mem_nil, late.eq, ⟨t.sign, _, chars, t.ne_nil, t.digits, rfl⟩,
        late.inRange, late.short, rfl⟩

/-! ## Reading what was written -/

theorem exists_spelling (t : Numeral) : ∃ u : Spelling, u.chars = t.chars ∧
    u.places = t.fraction.length ∧
      u.unscaled = if t.negative then -(t.magnitude : Int) else t.magnitude := by
  obtain ⟨negative, integer, fraction, filled, digits⟩ := t
  obtain ⟨fraction', same, point⟩ : ∃ fraction' : Option (List Char), fraction'.getD [] = fraction ∧
      pointed fraction' = if fraction = [] then [] else '.' :: fraction := by
    cases fraction with
    | nil => exact ⟨none, rfl, rfl⟩
    | cons d ds => exact ⟨some (d :: ds), rfl, rfl⟩
  subst same
  refine ⟨⟨if negative then .minus else .unsigned, integer, fraction', digits,
    List.append_ne_nil_of_left_ne_nil filled _⟩, ?_, rfl, ?_⟩
  · rw [Spelling.chars, Numeral.chars, point]
    cases negative <;> simp [Sign.chars]
  · rw [Spelling.unscaled, Numeral.magnitude]
    cases negative <;> rfl

theorem read?_chars {unscaled scale : Int} (inRange : TwosComplement.InRange unscaled)
    (pointed : 0 ≤ scale) (fits : scale < 2 ^ 31) :
    read? (DecimalText.chars unscaled scale) = some (unscaled, scale) := by
  obtain ⟨t, chars, negative, places, magnitude⟩ := exists_numeral unscaled scale
  obtain ⟨u, same, count, digits⟩ := exists_spelling t
  have whole : t.magnitude = unscaled.natAbs := by
    rw [magnitude, Int.toNat_of_nonpos (by omega), Nat.pow_zero, Nat.mul_one]
  have value : u.unscaled = unscaled := by
    rw [digits, whole]
    by_cases minus : unscaled < 0
    · rw [if_pos (negative.2 minus)]
      omega
    · rw [if_neg (mt negative.1 minus)]
      omega
  rw [← value] at inRange
  exact read?_eq_some_iff.2 (.inl ⟨u, same.trans chars, ⟨inRange, by omega⟩, value.symm, by omega⟩)

end DecimalText

/-! ## Binding -/

/-- The decimal of the integer that is left without the point, with the number of places. -/
def Spelling.decimal (t : Spelling) : CqlValue :=
  .decimal (TwosComplement.minimalBytes t.unscaled) t.places

namespace CqlValue

open DecimalText TwosComplement

variable {v : Json} {c : CqlValue} {s : String}

theorem bind_decimal_iff : bind (.native .decimal) v = .ok (some c) ↔ ∃ cs n scale,
    v.numeral? = some cs ∧ read? cs = some (n, scale) ∧ .decimal (minimalBytes n) scale = c := by
  rw [bind_eq_some_iff]
  constructor
  · intro means
    cases means with
    | decimal numeral read => exact ⟨_, _, _, numeral, read, rfl⟩
  · rintro ⟨cs, n, scale, numeral, read, rfl⟩
    exact NativeType.Means.decimal numeral read

theorem bind_text_iff : bind (.native .decimal) (.str s) = .ok (some c) ↔
    (∃ t : Spelling, t.chars = s.toList ∧ t.Fits ∧ t.decimal = c) ∨
    ∃ t, SignAfterPoint s.toList t ∧ .decimal (minimalBytes t.unscaled) t.chars.length = c := by
  rw [bind_decimal_iff]
  constructor
  · rintro ⟨_, n, scale, ⟨⟩, read, rfl⟩
    rcases read?_eq_some_iff.1 read with ⟨t, chars, fits, rfl, rfl⟩ | ⟨t, late, rfl, rfl⟩
    · exact .inl ⟨t, chars, fits, rfl⟩
    · exact .inr ⟨t, late, rfl⟩
  · rintro (⟨t, chars, fits, rfl⟩ | ⟨t, late, rfl⟩)
    · exact ⟨_, _, _, rfl, read?_eq_some_iff.2 (.inl ⟨t, chars, fits, rfl, rfl⟩), rfl⟩
    · exact ⟨_, _, _, rfl, read?_eq_some_iff.2 (.inr ⟨t, late, rfl, rfl⟩), rfl⟩

theorem bind_text_ne_none (type : CqlType) (s : String) : bind type (.str s) ≠ .ok none := by
  intro h
  cases bind_eq_none_iff.1 h

/-- The text is bound just if it spells an integer of 128 bits with at most one point among its
digits, and then to that integer with as many places as there are digits after the point. -/
def BoundAsSpelled (s : String) : Prop :=
  ∀ bound, bind (.native .decimal) (.str s) = .ok bound ↔
    ∃ t : Spelling, t.chars = s.toList ∧ InRange t.unscaled ∧ some t.decimal = bound

theorem boundAsSpelled_iff_signs : BoundAsSpelled s ↔ (¬ ∃ t, SignAfterPoint s.toList t) ∧
    ∀ t : Spelling, t.chars = s.toList → InRange t.unscaled → t.places < 2 ^ 31 := by
  constructor
  · intro asSpelled
    refine ⟨?_, fun t chars inRange => ?_⟩
    · rintro ⟨t, late⟩
      obtain ⟨u, chars, -⟩ := (asSpelled _).1 (bind_text_iff.2 (.inr ⟨t, late, rfl⟩))
      exact late.not_spelled u chars
    · rcases bind_text_iff.1 ((asSpelled _).2 ⟨t, chars, inRange, rfl⟩) with
        ⟨u, -, fits, same⟩ | ⟨u, late, -⟩
      · obtain ⟨-, places⟩ := CqlValue.decimal.inj same
        have := fits.2
        omega
      · exact absurd chars (late.not_spelled t)
  · rintro ⟨early, short⟩ bound
    cases bound with
    | none => simp [bind_text_ne_none]
    | some c =>
      simp only [bind_text_iff, Option.some.injEq]
      constructor
      · rintro (⟨t, chars, fits, same⟩ | ⟨t, late, -⟩)
        · exact ⟨t, chars, fits.1, same⟩
        · exact absurd ⟨t, late⟩ early
      · rintro ⟨t, chars, inRange, same⟩
        exact .inl ⟨t, chars, ⟨inRange, short t chars inRange⟩, same⟩

theorem bind_number {bound : Option CqlValue} (number : v.numeral? = some v.chars) :
    bind (.native .decimal) v = .ok bound ↔ bind (.native .decimal) (.str v.text) = .ok bound := by
  cases bound with
  | none =>
    rw [bind_eq_none_iff, bind_eq_none_iff]
    constructor
    · rintro rfl
      cases number
    · nofun
  | some c =>
    have text : (Json.str v.text).numeral? = v.numeral? := by
      rw [number, Json.numeral?, Json.text, String.toList_ofList]
    rw [bind_decimal_iff, bind_decimal_iff, text]

/-- A text is bound as it is spelled just if no sign stands after a point at its head and its places
can be counted in 32 bits. With such a sign it is bound too, and the sign is counted as a place. What
is bound as it is spelled is the number written, and a number is bound as its text is. -/
theorem boundAsSpelled_iff (s : String) :
    (BoundAsSpelled s ↔ (¬ ∃ t, SignAfterPoint s.toList t) ∧
      ∀ t : Spelling, t.chars = s.toList → InRange t.unscaled → t.places < 2 ^ 31) ∧
    (∀ t, SignAfterPoint s.toList t → bind (.native .decimal) (.str s) =
      .ok (some (.decimal (minimalBytes t.unscaled) t.chars.length))) ∧
    (∀ t : Spelling, t.chars = s.toList → InRange t.unscaled →
      TwosComplement.value (minimalBytes t.unscaled) = t.unscaled ∧
        t.value = t.unscaled / 10 ^ t.places) ∧
    ∀ v : Json, v.text = s → ((∃ n, v = .int n) ∨ ∃ x, v = .float x) →
      ∀ bound, bind (.native .decimal) v = .ok bound ↔
        bind (.native .decimal) (.str s) = .ok bound := by
  refine ⟨boundAsSpelled_iff_signs, fun t late => ?_, fun t _ inRange => ⟨?_, t.value_eq⟩, ?_⟩
  · exact bind_text_iff.2 (.inr ⟨t, late, rfl⟩)
  · rw [← signed_eq_value, signed_minimalBytes inRange]
  · rintro v rfl (⟨n, rfl⟩ | ⟨x, rfl⟩) bound
    · exact bind_number rfl
    · exact bind_number rfl

/-- The text `.-5` is bound as -0.05, and the number -12 as its text is. -/
theorem sign_after_point_bound :
    bind (.native .decimal) (.str ".-5") = .ok (some (.decimal [251] 2)) ∧
    ¬ BoundAsSpelled ".-5" ∧
    bind (.native .decimal) (.str "-.5") = .ok (some (.decimal [251] 1)) ∧
    BoundAsSpelled "-.5" ∧ TwosComplement.value [251] = -5 ∧
    ∀ bound, bind (.native .decimal) (.int (-12)) = .ok bound ↔
      bind (.native .decimal) (.str "-12") = .ok bound := by
  obtain ⟨condition, bound, -⟩ := boundAsSpelled_iff ".-5"
  obtain ⟨condition', -, denoted, -⟩ := boundAsSpelled_iff "-.5"
  obtain ⟨-, -, -, number⟩ := boundAsSpelled_iff "-12"
  have bytes : minimalBytes (-5) = [251] := by decide
  let five : Spelling := ⟨.minus, ['5'], none, by simp, by simp⟩
  have late : SignAfterPoint ".-5".toList five := ⟨by decide, nofun, rfl, by decide, by decide⟩
  let half : Spelling := ⟨.minus, [], some ['5'], by simp, by simp⟩
  have asSpelled : BoundAsSpelled "-.5" := by
    refine condition'.2 ⟨?_, fun t chars inRange => ?_⟩
    · rintro ⟨t, late⟩
      cases late.eq
    · have few := t.places_le_length
      rw [chars] at few
      exact few.trans_lt (by decide)
  rw [← bytes]
  exact ⟨bound five late, fun asSpelled => (condition.1 asSpelled).1 ⟨five, late⟩,
    (asSpelled _).2 ⟨half, by decide, by decide, rfl⟩, asSpelled,
    (denoted half (by decide) (by decide)).1, number (.int (-12)) (by decide) (.inl ⟨_, rfl⟩)⟩

/-! ## Writing and binding again -/

/-- The text is a numeral of the decimal's value, with a minus sign just if the integer is negative
and with as many digits after the point as the scale says. The decimal is decoded to it, and is bound
to it if the scale is not negative. -/
structure WrittenAs (unscaled scale : Int) (cs : List Char) : Prop where
  written : write? unscaled scale = some cs
  numeral : ∃ t : Numeral, t.chars = cs ∧ t.value = unscaled * 10 ^ (-scale) ∧
    (t.negative ↔ unscaled < 0) ∧ t.fraction.length = scale.toNat
  bound : 0 ≤ scale → bind (.native .decimal) (.str (String.ofList cs)) =
    .ok (some (.decimal (minimalBytes unscaled) scale))
  decoded : decode? (.decimal (minimalBytes unscaled) scale) = some (.str (String.ofList cs))

theorem ofBytes?_minimalBytes {n : Int} (inRange : InRange n) :
    ofBytes? (minimalBytes n) = some n := by
  have short := length_minimalBytes_le n
  rw [ofBytes?, if_neg, signed_minimalBytes inRange]
  rintro (empty | long)
  · exact minimalBytes_ne_nil n empty
  · omega

theorem bind_chars {unscaled scale : Int} (inRange : InRange unscaled) (pointed : 0 ≤ scale)
    (fits : scale < 2 ^ 31) :
    bind (.native .decimal) (.str (String.ofList (DecimalText.chars unscaled scale))) =
      .ok (some (.decimal (minimalBytes unscaled) scale)) :=
  bind_decimal_iff.2
    ⟨_, _, _, congrArg some String.toList_ofList, read?_chars inRange pointed fits, rfl⟩

theorem writtenAs_chars {unscaled scale : Int} (inRange : InRange unscaled) (short : scale < 65535) :
    WrittenAs unscaled scale (DecimalText.chars unscaled scale) where
  written := write?_eq_some_iff.2 ⟨short, rfl⟩
  numeral := by
    obtain ⟨t, chars, negative, places, magnitude⟩ := exists_numeral unscaled scale
    exact ⟨t, chars, value_eq negative places magnitude, negative, places⟩
  bound pointed := bind_chars inRange pointed (by omega)
  decoded := by
    rw [decode?_eq_some_iff, isWritten, decimalIsWritten_iff, toJson, decimalJson,
      ofBytes?_minimalBytes inRange]
    exact ⟨fun overlong => absurd overlong.2.2 (by omega), rfl⟩

/-- A decimal is written if it has fewer than 65535 places. The text of one with more is bound to
it too, but the program stops when it is to be written or decoded. -/
theorem decimal_written_iff {unscaled scale : Int} (inRange : InRange unscaled)
    (fits : FitsBits 32 scale) :
    ((∃ cs, WrittenAs unscaled scale cs) ↔ scale < 65535) ∧
    (65535 ≤ scale → write? unscaled scale = none ∧
      ∃ s, bind (.native .decimal) (.str s) =
          .ok (some (.decimal (minimalBytes unscaled) scale)) ∧
        decode? (.decimal (minimalBytes unscaled) scale) = none) := by
  refine ⟨⟨?_, fun short => ⟨_, writtenAs_chars inRange short⟩⟩, fun long => ⟨?_, ?_⟩⟩
  · rintro ⟨cs, writtenAs⟩
    exact (write?_eq_some_iff.1 writtenAs.written).1
  · rw [Option.eq_none_iff_forall_ne_some]
    intro cs written
    have := (write?_eq_some_iff.1 written).1
    omega
  · refine ⟨_, bind_chars inRange (by omega) fits.2, ?_⟩
    have short := length_minimalBytes_le unscaled
    exact decode?_eq_none_iff.2 ⟨_, .self, minimalBytes_ne_nil unscaled, short, long⟩

/-- One of 65535 places is not written. The least integer is, at 40 places. -/
theorem wide_decimal_not_written :
    InRange 1 ∧ FitsBits 32 65535 ∧ write? 1 65535 = none ∧
    decode? (.decimal [1] 65535) = none ∧
    InRange (-2 ^ 127) ∧ FitsBits 32 40 ∧
    bind (.native .decimal) (.str "-0.0170141183460469231731687303715884105728") =
      .ok (some (.decimal (128 :: List.replicate 15 0) 40)) ∧
    decode? (.decimal (128 :: List.replicate 15 0) 40) =
      some (.str "-0.0170141183460469231731687303715884105728") := by
  have inRange : InRange 1 := by decide
  have fits : FitsBits 32 65535 := by decide
  obtain ⟨unwritten, -, -, stopped⟩ := (decimal_written_iff inRange fits).2 (Int.le_refl _)
  have least : InRange (-2 ^ 127) := by decide
  have fits' : FitsBits 32 40 := by decide
  obtain ⟨cs, writtenAs⟩ := (decimal_written_iff least fits').1.2 (by decide)
  have text : "-0.0170141183460469231731687303715884105728" = String.ofList cs := by
    rw [← (write?_eq_some_iff.1 writtenAs.written).2]
    decide
  have bytes : minimalBytes 1 = [1] := by decide
  have bytes' : minimalBytes (-2 ^ 127) = 128 :: List.replicate 15 0 := by decide
  rw [bytes] at stopped
  rw [← bytes', text]
  exact ⟨inRange, fits, unwritten, stopped, least, fits', writtenAs.bound (by decide),
    writtenAs.decoded⟩

end CqlValue

end CqlClient
