import CqlClient.Native.Transport
import CqlClient.Proofs.Calendar.Range
import CqlClient.Proofs.Cql.Bytes
import CqlClient.Proofs.Except
import CqlClient.Proofs.Json.Members

/-!
# What a parameter means at a type

As a value of a CQL type, a JSON value has one meaning or none: `CqlType.Means` says which, by
recursion on the type. Main statements:

* `bind_eq_some_iff`: a parameter is bound to the value that it means.
* `CqlType.Means.holds`: what a parameter means is a value of the type, at every depth.
* `bind_typed`: binding gives no value for null, the meaning of any other parameter that has one,
  and a configuration error for the rest, in which are all that have a null inside.
-/

namespace CqlClient

/-- A value, or anything that it is made of. -/
inductive Json.IsPart (part : Json) : Json → Prop
  | self : IsPart part part
  | item {items : List Json} {v : Json} (among : v ∈ items) (within : IsPart part v) :
      IsPart part (.arr items)
  | member {members : Members} {key : String} {v : Json} (among : (key, v) ∈ members)
      (within : IsPart part v) : IsPart part (.obj members)

/-- The text by which a decimal is given. -/
def Json.numeral? : Json → Option (List Char)
  | .str s => some s.toList
  | .int n => some (Text.intChars n)
  | .float x => some (Json.floatText x).toList
  | _ => none

/-- An integer of so many bits, one of them for the sign. -/
def FitsBits (bits : Nat) (n : Int) : Prop := -2 ^ (bits - 1) ≤ n ∧ n < 2 ^ (bits - 1)

instance (bits : Nat) (n : Int) : Decidable (FitsBits bits n) := inferInstanceAs (Decidable (_ ∧ _))

theorem FitsBits.mono {small large : Nat} (le : small ≤ large) {n : Int} (fits : FitsBits small n) :
    FitsBits large n := by
  have wider : (2 : Int) ^ (small - 1) ≤ 2 ^ (large - 1) :=
    pow_le_pow_right₀ (by decide) (by omega)
  unfold FitsBits at *
  omega

/-! ## Values of a type -/

def NativeType.Holds : NativeType → CqlValue → Prop
  | .ascii, .ascii _ => True
  | .boolean, .boolean _ => True
  | .blob, .blob _ => True
  | .counter, .counter n => FitsBits 64 n
  | .date, .date days => days < 2 ^ 32
  | .decimal, .decimal unscaled scale => unscaled ≠ [] ∧ FitsBits 32 scale
  | .double, .double _ => True
  | .duration, .duration months days nanoseconds =>
    FitsBits 32 months ∧ FitsBits 32 days ∧ FitsBits 64 nanoseconds
  | .float, .float _ => True
  | .int, .int n => FitsBits 32 n
  | .bigInt, .bigInt n => FitsBits 64 n
  | .text, .text _ => True
  | .timestamp, .timestamp millis => FitsBits 64 millis
  | .inet, .inet _ => True
  | .smallInt, .smallInt n => FitsBits 16 n
  | .tinyInt, .tinyInt n => FitsBits 8 n
  | .time, .time nanos => FitsBits 64 nanos
  | .timeuuid, .timeuuid _ => True
  | .uuid, .uuid _ => True
  | .varint, .varint _ => True
  | _, _ => False

namespace CqlType

@[elab_as_elim]
theorem induct {P : CqlType → Prop} (native : ∀ t, P (.native t))
    (list : ∀ frozen element, P element → P (.list frozen element))
    (set : ∀ frozen element, P element → P (.set frozen element))
    (map : ∀ frozen key value, P key → P value → P (.map frozen key value))
    (tuple : ∀ elements, P (.tuple elements))
    (vector : ∀ element dimensions, P (.vector element dimensions))
    (userDefined : ∀ frozen keyspace name fields, P (.userDefined frozen keyspace name fields)) :
    ∀ type, P type
  | .native t => native t
  | .list frozen element =>
    list frozen element (induct native list set map tuple vector userDefined element)
  | .set frozen element =>
    set frozen element (induct native list set map tuple vector userDefined element)
  | .map frozen key value =>
    map frozen key value (induct native list set map tuple vector userDefined key)
      (induct native list set map tuple vector userDefined value)
  | .tuple elements => tuple elements
  | .vector element dimensions => vector element dimensions
  | .userDefined frozen keyspace name fields => userDefined frozen keyspace name fields

mutual

/-- A value of the type, at every depth. -/
def Holds : CqlType → CqlValue → Prop
  | .native t, c => t.Holds c
  | .list _ element, .list items => ∀ c ∈ items, element.Holds c
  | .set _ element, .set items => ∀ c ∈ items, element.Holds c
  | .map _ key value, .map entries => ∀ e ∈ entries, key.Holds e.1 ∧ value.Holds e.2
  | .tuple elements, .tuple items => HoldAll elements items
  | .vector element dimensions, .vector items =>
    items.length = dimensions ∧ ∀ c ∈ items, element.Holds c
  | .userDefined _ keyspace name fields, .userDefined keyspace' name' fields' =>
    keyspace = keyspace' ∧ name = name' ∧ HoldFields fields fields'
  | _, _ => False

/-- Components may be unset, the last ones also left out. -/
def HoldAll : List CqlType → List (Option CqlValue) → Prop
  | _, [] => True
  | type :: types, c :: rest => (∀ c' ∈ c, type.Holds c') ∧ HoldAll types rest
  | [], _ :: _ => False

def HoldFields : List (String × CqlType) → List (String × Option CqlValue) → Prop
  | _, [] => True
  | (name, type) :: types, (name', c) :: rest =>
    name = name' ∧ (∀ c' ∈ c, type.Holds c') ∧ HoldFields types rest
  | [], _ :: _ => False

end

end CqlType

/-! ## Meanings -/

/-- What a JSON value means as a value of a native type. -/
inductive NativeType.Means : NativeType → Json → CqlValue → Prop
  | ascii (s : String) : Means .ascii (.str s) (.ascii s)
  | text (s : String) : Means .text (.str s) (.text s)
  | boolean (b : Bool) : Means .boolean (.bool b) (.boolean b)
  | tinyInt {n : Int} (fits : FitsBits 8 n) : Means .tinyInt (.int n) (.tinyInt n)
  | smallInt {n : Int} (fits : FitsBits 16 n) : Means .smallInt (.int n) (.smallInt n)
  | int {n : Int} (fits : FitsBits 32 n) : Means .int (.int n) (.int n)
  | bigInt {n : Int} (fits : FitsBits 64 n) : Means .bigInt (.int n) (.bigInt n)
  | counter {n : Int} (fits : FitsBits 64 n) : Means .counter (.int n) (.counter n)
  | float {v : Json} {x : Double} (number : v.asDouble? = some x) :
      Means .float v (.float x.toSingle)
  | double {v : Json} {x : Double} (number : v.asDouble? = some x) : Means .double v (.double x)
  | decimal {v : Json} {cs : List Char} {n scale : Int} (numeral : v.numeral? = some cs)
      (read : DecimalText.read? cs = some (n, scale)) :
      Means .decimal v (.decimal (TwosComplement.minimalBytes n) scale)
  | uuid {s : String} {u : Uuid} (read : Uuid.ofChars? s.toList = some u) :
      Means .uuid (.str s) (.uuid u)
  | timeuuid {s : String} {u : Uuid} (read : Uuid.ofChars? s.toList = some u) :
      Means .timeuuid (.str s) (.timeuuid u)
  | millis {n : Int} (fits : FitsBits 64 n) : Means .timestamp (.int n) (.timestamp n)
  | instant {s : String} {n : Int} (read : Instant.ofChars? s.toList = some n) :
      Means .timestamp (.str s) (.timestamp n)
  | date {s : String} {d : Date} {days : Nat} (read : Date.ofChars? s.toList = some d)
      (counted : d.toDays + CqlValue.epochDay = days) (fits : days < 2 ^ 32) :
      Means .date (.str s) (.date days)
  | time {s : String} {c : Clock} (read : Clock.ofChars? s.toList = some c) :
      Means .time (.str s) (.time c.toNanos)
  | inet {s : String} {a : InetAddress} (read : InetAddress.ofChars? s.toList = some a) :
      Means .inet (.str s) (.inet a)
  | blob (bytes : List UInt8) : Means .blob (.arr (bytes.map fun b => .int b.toNat)) (.blob bytes)

/-- What a JSON value means as a value of a type. A list or a set has one element for each item of
an array, in their order, and a map one entry for each member of an object. -/
def CqlType.Means : CqlType → Json → CqlValue → Prop
  | .native t, v, c => t.Means v c
  | .list _ element, .arr items, .list values => List.Forall₂ element.Means items values
  | .set _ element, .arr items, .set values => List.Forall₂ element.Means items values
  | .map _ key value, .obj members, .map entries =>
    List.Forall₂ (fun m e => key.Means (.str m.1) e.1 ∧ value.Means m.2 e.2) members entries
  | _, _, _ => False

namespace CqlType

variable {frozen : Bool} {element key value : CqlType} {v : Json} {c : CqlValue}

theorem means_list_iff : (list frozen element).Means v c ↔ ∃ items values,
    v = .arr items ∧ List.Forall₂ element.Means items values ∧ .list values = c := by
  constructor
  · intro h
    cases v <;> cases c <;> first | exact ⟨_, _, rfl, h, rfl⟩ | exact h.elim
  · rintro ⟨items, values, rfl, each, rfl⟩
    exact each

theorem means_set_iff : (set frozen element).Means v c ↔ ∃ items values,
    v = .arr items ∧ List.Forall₂ element.Means items values ∧ .set values = c := by
  constructor
  · intro h
    cases v <;> cases c <;> first | exact ⟨_, _, rfl, h, rfl⟩ | exact h.elim
  · rintro ⟨items, values, rfl, each, rfl⟩
    exact each

theorem means_map_iff : (map frozen key value).Means v c ↔
    ∃ members entries, v = .obj members ∧
      List.Forall₂ (fun m e => key.Means (.str m.1) e.1 ∧ value.Means m.2 e.2) members entries ∧
      .map entries = c := by
  constructor
  · intro h
    cases v <;> cases c <;> first | exact ⟨_, _, rfl, h, rfl⟩ | exact h.elim
  · rintro ⟨members, entries, rfl, each, rfl⟩
    exact each

end CqlType

/-! ## Binding -/

namespace Json

variable {v : Json}

theorem asString?_eq_some_iff {s : String} : v.asString? = some s ↔ v = .str s := by
  cases v <;> simp [asString?]

theorem asBool?_eq_some_iff {b : Bool} : v.asBool? = some b ↔ v = .bool b := by
  cases v <;> simp [asBool?]

theorem asInt64?_eq_some_iff {n : Int} : v.asInt64? = some n ↔ v = .int n ∧ FitsBits 64 n := by
  cases v with
  | int m =>
    have limit : Int.pow 2 63 = 2 ^ 63 := rfl
    simp only [asInt64?, FitsBits, limit, Option.ite_none_right_eq_some, Option.some.injEq,
      Json.int.injEq]
    grind
  | _ => simp [asInt64?]

end Json

namespace CqlValue

variable {v : Json} {c : CqlValue}

theorem intOfBits?_eq_some_iff {bits : Nat} (small : bits ≤ 64) {n : Int} :
    intOfBits? bits v = some n ↔ v = .int n ∧ FitsBits bits n := by
  have limit : Int.pow 2 (bits - 1) = 2 ^ (bits - 1) := rfl
  simp only [intOfBits?, Option.filter_eq_some_iff, Json.asInt64?_eq_some_iff, limit,
    Bool.and_eq_true, decide_eq_true_eq]
  exact ⟨fun ⟨⟨same, _⟩, fits⟩ => ⟨same, fits⟩,
    fun ⟨same, fits⟩ => ⟨⟨same, FitsBits.mono small fits⟩, fits⟩⟩

theorem byte?_eq_some_iff {b : UInt8} : byte? v = some b ↔ v = .int b.toNat := by
  simp only [byte?, Option.map_eq_some_iff, Option.filter_eq_some_iff, decide_eq_true_eq,
    Json.asNat64?_eq_some_iff]
  constructor
  · rintro ⟨n, ⟨⟨rfl, -⟩, small⟩, rfl⟩
    rw [UInt8.toNat_ofNat_of_lt' small]
  · rintro rfl
    have small := b.toNat_lt
    exact ⟨b.toNat, ⟨⟨rfl, by omega⟩, small⟩, UInt8.ofNat_toNat⟩

theorem bytes?_eq_some_iff {bytes : List UInt8} :
    bytes? v = some bytes ↔ v = .arr (bytes.map fun b => .int b.toNat) := by
  cases v with
  | arr items =>
    simp only [bytes?, mapM_eq_some, byte?_eq_some_iff, Json.arr.injEq]
    rw [← List.forall₂_eq_eq_eq, List.forall₂_map_right_iff]
  | _ => simp [bytes?]

theorem uuid?_eq_some_iff {u : Uuid} :
    uuid? v = some u ↔ ∃ s, v = .str s ∧ Uuid.ofChars? s.toList = some u := by
  simp only [uuid?, Option.bind_eq_some_iff, Json.asString?_eq_some_iff]

theorem inet?_eq_some_iff {a : InetAddress} :
    inet? v = some a ↔ ∃ s, v = .str s ∧ InetAddress.ofChars? s.toList = some a := by
  simp only [inet?, Option.bind_eq_some_iff, Json.asString?_eq_some_iff]

theorem decimal?_eq : decimal? v = (v.numeral?.bind DecimalText.read?).map fun (n, scale) =>
    .decimal (TwosComplement.minimalBytes n) scale := by
  cases v <;> rfl

theorem ofNative?_null (t : NativeType) : ofNative? t .null = none := by
  cases t <;> rfl

theorem means_of_ofNative? {t : NativeType} (h : ofNative? t v = some c) : t.Means v c := by
  cases t with
  | ascii =>
    obtain ⟨s, text, rfl⟩ := Option.map_eq_some_iff.1 h
    exact Json.asString?_eq_some_iff.1 text ▸ .ascii s
  | text =>
    obtain ⟨s, text, rfl⟩ := Option.map_eq_some_iff.1 h
    exact Json.asString?_eq_some_iff.1 text ▸ .text s
  | boolean =>
    obtain ⟨b, truth, rfl⟩ := Option.map_eq_some_iff.1 h
    exact Json.asBool?_eq_some_iff.1 truth ▸ .boolean b
  | tinyInt =>
    obtain ⟨n, number, rfl⟩ := Option.map_eq_some_iff.1 h
    obtain ⟨rfl, fits⟩ := (intOfBits?_eq_some_iff (by decide)).1 number
    exact .tinyInt fits
  | smallInt =>
    obtain ⟨n, number, rfl⟩ := Option.map_eq_some_iff.1 h
    obtain ⟨rfl, fits⟩ := (intOfBits?_eq_some_iff (by decide)).1 number
    exact .smallInt fits
  | int =>
    obtain ⟨n, number, rfl⟩ := Option.map_eq_some_iff.1 h
    obtain ⟨rfl, fits⟩ := (intOfBits?_eq_some_iff (by decide)).1 number
    exact .int fits
  | bigInt =>
    obtain ⟨n, number, rfl⟩ := Option.map_eq_some_iff.1 h
    obtain ⟨rfl, fits⟩ := Json.asInt64?_eq_some_iff.1 number
    exact .bigInt fits
  | counter =>
    obtain ⟨n, number, rfl⟩ := Option.map_eq_some_iff.1 h
    obtain ⟨rfl, fits⟩ := Json.asInt64?_eq_some_iff.1 number
    exact .counter fits
  | float =>
    obtain ⟨x, number, rfl⟩ := Option.map_eq_some_iff.1 h
    exact .float number
  | double =>
    obtain ⟨x, number, rfl⟩ := Option.map_eq_some_iff.1 h
    exact .double number
  | decimal =>
    rw [ofNative?, decimal?_eq] at h
    obtain ⟨⟨n, scale⟩, found, rfl⟩ := Option.map_eq_some_iff.1 h
    obtain ⟨cs, numeral, read⟩ := Option.bind_eq_some_iff.1 found
    exact .decimal numeral read
  | uuid =>
    obtain ⟨u, found, rfl⟩ := Option.map_eq_some_iff.1 h
    obtain ⟨s, rfl, read⟩ := uuid?_eq_some_iff.1 found
    exact .uuid read
  | timeuuid =>
    obtain ⟨u, found, rfl⟩ := Option.map_eq_some_iff.1 h
    obtain ⟨s, rfl, read⟩ := uuid?_eq_some_iff.1 found
    exact .timeuuid read
  | timestamp =>
    cases v with
    | str s =>
      obtain ⟨n, read, rfl⟩ := Option.map_eq_some_iff.1 h
      exact .instant read
    | int m =>
      obtain ⟨n, number, rfl⟩ := Option.map_eq_some_iff.1 h
      obtain ⟨same, fits⟩ := Json.asInt64?_eq_some_iff.1 number
      exact same ▸ .millis fits
    | _ => cases h
  | date =>
    obtain ⟨s, text, h⟩ := Option.bind_eq_some_iff.1 h
    obtain ⟨d, read, h⟩ := Option.bind_eq_some_iff.1 h
    obtain ⟨⟨after, before⟩, h⟩ := Option.ite_none_right_eq_some.1 h
    cases h
    exact Json.asString?_eq_some_iff.1 text ▸
      .date read (Int.toNat_of_nonneg after).symm ((Int.toNat_lt after).2 before)
  | time =>
    obtain ⟨s, text, h⟩ := Option.bind_eq_some_iff.1 h
    obtain ⟨clock, read, h⟩ := Option.bind_eq_some_iff.1 h
    cases h
    exact Json.asString?_eq_some_iff.1 text ▸ .time read
  | inet =>
    obtain ⟨a, found, rfl⟩ := Option.map_eq_some_iff.1 h
    obtain ⟨s, rfl, read⟩ := inet?_eq_some_iff.1 found
    exact .inet read
  | blob =>
    obtain ⟨bytes, array, rfl⟩ := Option.map_eq_some_iff.1 h
    exact bytes?_eq_some_iff.1 array ▸ .blob bytes
  | duration => cases h
  | varint => cases h

theorem ofNative?_of_means {t : NativeType} (h : t.Means v c) : ofNative? t v = some c := by
  cases h with
  | ascii s => rfl
  | text s => rfl
  | boolean b => rfl
  | tinyInt fits =>
    rw [ofNative?, (intOfBits?_eq_some_iff (by decide)).2 ⟨rfl, fits⟩, Option.map_some]
  | smallInt fits =>
    rw [ofNative?, (intOfBits?_eq_some_iff (by decide)).2 ⟨rfl, fits⟩, Option.map_some]
  | int fits =>
    rw [ofNative?, (intOfBits?_eq_some_iff (by decide)).2 ⟨rfl, fits⟩, Option.map_some]
  | bigInt fits => rw [ofNative?, Json.asInt64?_eq_some_iff.2 ⟨rfl, fits⟩, Option.map_some]
  | counter fits => rw [ofNative?, Json.asInt64?_eq_some_iff.2 ⟨rfl, fits⟩, Option.map_some]
  | float number => rw [ofNative?, number, Option.map_some]
  | double number => rw [ofNative?, number, Option.map_some]
  | decimal numeral read =>
    rw [ofNative?, decimal?_eq, numeral, Option.bind_some, read, Option.map_some]
  | uuid read => rw [ofNative?, uuid?_eq_some_iff.2 ⟨_, rfl, read⟩, Option.map_some]
  | timeuuid read => rw [ofNative?, uuid?_eq_some_iff.2 ⟨_, rfl, read⟩, Option.map_some]
  | millis fits =>
    simp only [ofNative?, timestamp?, Json.asInt64?_eq_some_iff.2 ⟨rfl, fits⟩, Option.map_some]
  | instant read => rw [ofNative?, timestamp?, read, Option.map_some]
  | date read counted fits =>
    have limit : Int.pow 2 32 = 2 ^ 32 := rfl
    simp only [ofNative?, date?, Json.asString?, read, Option.bind_eq_bind, Option.bind_some,
      counted]
    rw [if_pos (by omega), Int.toNat_natCast]
  | time read =>
    simp only [ofNative?, time?, Json.asString?, read, Option.bind_eq_bind, Option.bind_some]
  | inet read => rw [ofNative?, inet?_eq_some_iff.2 ⟨_, rfl, read⟩, Option.map_some]
  | blob bytes => rw [ofNative?, bytes?_eq_some_iff.2 rfl, Option.map_some]

theorem orFault_eq_ok_iff {type : CqlType} {bound : Option CqlValue} :
    orFault v type bound = .ok c ↔ bound = some c := by
  cases bound <;> simp [orFault]

theorem bindElements_eq_ok_iff {element : CqlType}
    {bind : Json → Except BindFault (Option CqlValue)} {values : List CqlValue} :
    bindElements element bind v = .ok values ↔
      ∃ items, v = .arr items ∧ List.Forall₂ (fun v c => bind v = .ok (some c)) items values := by
  cases v with
  | arr items =>
    simp only [bindElements, mapM_eq_ok, bind_eq_ok, orFault_eq_ok_iff, Json.arr.injEq,
      exists_eq_left', exists_eq_right]
  | _ => simp [bindElements]

theorem bindEntries_eq_ok_iff {whole : Json} {type : CqlType}
    {bindKey bindValue : Json → Except BindFault (Option CqlValue)} {members : Members}
    {entries : List (CqlValue × CqlValue)} :
    bindEntries whole type bindKey bindValue members = .ok entries ↔
      List.Forall₂ (fun m e => bindKey (.str m.1) = .ok (some e.1) ∧ bindValue m.2 = .ok (some e.2))
        members entries := by
  induction members generalizing entries with
  | nil => simp [bindEntries, eq_comm]
  | cons m members ih =>
    simp only [bindEntries, bind_eq_ok, orFault_eq_ok_iff, ih, Except.ok.injEq,
      List.forall₂_cons_left_iff]
    constructor
    · rintro ⟨_, bound, key, rfl, _, bound', value, rfl, entries, each, rfl⟩
      exact ⟨(key, value), entries, ⟨bound, bound'⟩, each, rfl⟩
    · rintro ⟨⟨key, value⟩, entries, ⟨bound, bound'⟩, each, rfl⟩
      exact ⟨_, bound, key, rfl, _, bound', value, rfl, entries, each, rfl⟩

theorem bind_eq_none_iff {type : CqlType} : bind type v = .ok none ↔ v = .null := by
  constructor
  · intro h
    cases v with
    | null => rfl
    | _ => cases type <;> simp [bind, bind_eq_ok] at h
  · rintro rfl
    rw [bind]

theorem bind_eq_some_iff {type : CqlType} : bind type v = .ok (some c) ↔ type.Means v c := by
  induction type using CqlType.induct generalizing v c with
  | native t =>
    have means : ofNative? t v = some c ↔ t.Means v c := ⟨means_of_ofNative?, ofNative?_of_means⟩
    rw [CqlType.Means, ← means]
    cases v with
    | null => simp [bind, ofNative?_null]
    | _ => simp [bind, bind_eq_ok, orFault_eq_ok_iff]
  | list frozen element ih =>
    rw [CqlType.means_list_iff]
    cases v with
    | null => simp [bind]
    | _ => simp [bind, bind_eq_ok, bindElements_eq_ok_iff, ih]
  | set frozen element ih =>
    rw [CqlType.means_set_iff]
    cases v with
    | null => simp [bind]
    | _ => simp [bind, bind_eq_ok, bindElements_eq_ok_iff, ih]
  | map frozen key value ihKey ihValue =>
    rw [CqlType.means_map_iff]
    cases v with
    | null => simp [bind]
    | _ => simp [bind, bind_eq_ok, bindEntries_eq_ok_iff, ihKey, ihValue]
  | tuple elements => cases v <;> simp [bind, CqlType.Means]
  | vector element dimensions => cases v <;> simp [bind, CqlType.Means]
  | userDefined frozen keyspace name fields => cases v <;> simp [bind, CqlType.Means]

end CqlValue

theorem DecimalText.scale_of_read? {cs : List Char} {n scale : Int}
    (h : read? cs = some (n, scale)) : FitsBits 32 scale := by
  unfold read? at h
  generalize splitPoint cs = parts at h
  dsimp only at h
  split at h
  · cases h
  · obtain ⟨⟨-, short⟩, same⟩ := Option.ite_none_right_eq_some.1 h
    obtain ⟨-, rfl⟩ := Prod.mk.inj (Option.some.inj same)
    have limit : Nat.pow 2 31 = 2 ^ 31 := rfl
    unfold FitsBits
    omega

theorem NativeType.Means.holds {t : NativeType} {v : Json} {c : CqlValue} (h : t.Means v c) :
    t.Holds c := by
  cases h with
  | tinyInt fits => exact fits
  | smallInt fits => exact fits
  | int fits => exact fits
  | bigInt fits => exact fits
  | counter fits => exact fits
  | millis fits => exact fits
  | decimal _ read => exact ⟨TwosComplement.minimalBytes_ne_nil _, DecimalText.scale_of_read? read⟩
  | instant read =>
    have := Instant.ofChars?_bounds read
    simp only [Holds, FitsBits]
    omega
  | date _ _ fits => exact fits
  | time read =>
    have := Clock.ofChars?_bounds read
    simp only [Holds, FitsBits, Clock.toNanos, Clock.nanosPerSecond] at *
    omega
  | _ => trivial

theorem NativeType.Means.null_free {t : NativeType} {v : Json} {c : CqlValue} (h : t.Means v c) :
    ¬ Json.IsPart .null v := by
  intro part
  cases h with
  | float number => cases part <;> cases number
  | double number => cases part <;> cases number
  | decimal numeral _ => cases part <;> cases numeral
  | blob bytes =>
    cases part with
    | item among within =>
      obtain ⟨b, -, rfl⟩ := List.mem_map.1 among
      cases within
  | _ => cases part

namespace CqlType

variable {type : CqlType} {v : Json} {c : CqlValue}

theorem Means.holds (h : type.Means v c) : type.Holds c := by
  induction type using CqlType.induct generalizing v c with
  | native t => exact NativeType.Means.holds h
  | list frozen element ih =>
    obtain ⟨items, values, rfl, each, rfl⟩ := means_list_iff.1 h
    intro c among
    obtain ⟨v, -, means⟩ := exists_of_mem_right each among
    exact ih means
  | set frozen element ih =>
    obtain ⟨items, values, rfl, each, rfl⟩ := means_set_iff.1 h
    intro c among
    obtain ⟨v, -, means⟩ := exists_of_mem_right each among
    exact ih means
  | map frozen key value ihKey ihValue =>
    obtain ⟨members, entries, rfl, each, rfl⟩ := means_map_iff.1 h
    intro e among
    obtain ⟨m, -, means, means'⟩ := exists_of_mem_right each among
    exact ⟨ihKey means, ihValue means'⟩
  | tuple elements => exact h.elim
  | vector element dimensions => exact h.elim
  | userDefined frozen keyspace name fields => exact h.elim

theorem Means.null_free (h : type.Means v c) : ¬ Json.IsPart .null v := by
  induction type using CqlType.induct generalizing v c with
  | native t => exact NativeType.Means.null_free h
  | list frozen element ih =>
    obtain ⟨items, values, rfl, each, rfl⟩ := means_list_iff.1 h
    rintro (_ | ⟨among, within⟩)
    obtain ⟨c, -, means⟩ := exists_of_mem_left each among
    exact ih means within
  | set frozen element ih =>
    obtain ⟨items, values, rfl, each, rfl⟩ := means_set_iff.1 h
    rintro (_ | ⟨among, within⟩)
    obtain ⟨c, -, means⟩ := exists_of_mem_left each among
    exact ih means within
  | map frozen key value ihKey ihValue =>
    obtain ⟨members, entries, rfl, each, rfl⟩ := means_map_iff.1 h
    rintro (_ | _ | ⟨among, within⟩)
    obtain ⟨e, -, -, means⟩ := exists_of_mem_left each among
    exact ihValue means within
  | tuple elements => exact h.elim
  | vector element dimensions => exact h.elim
  | userDefined frozen keyspace name fields => exact h.elim

end CqlType

namespace CqlValue

theorem bindParameter_of_error {type : CqlType} {v : Json} {e : BindFault}
    (h : bind type v = .error e) (name : String) :
    Native.bindParameter ⟨name, type⟩ v =
      .error (.configuration (.unbindableParameter name e)) := by
  rw [Native.bindParameter, h]

/-- Null binds to no value, and nothing else does. A parameter binds to a value just when it means
that value at the type, and the value then is one of the type, at every depth. Any other parameter
is a configuration error, and so is every one that has a null inside. -/
theorem bind_typed (type : CqlType) (v : Json) :
    (bind type v = .ok none ↔ v = .null) ∧
    (∀ c, bind type v = .ok (some c) ↔ type.Means v c) ∧
    (∀ c, type.Means v c → type.Holds c) ∧
    ((v ≠ .null ∧ ∀ c, ¬ type.Means v c) ↔ ∃ e, bind type v = .error e) ∧
    (v ≠ .null → Json.IsPart .null v → ∃ e, bind type v = .error e) ∧
    ∀ e, bind type v = .error e → ∀ name, Native.bindParameter ⟨name, type⟩ v =
      .error (.configuration (.unbindableParameter name e)) := by
  have none : bind type v = .ok none ↔ v = .null := bind_eq_none_iff
  have error : (v ≠ .null ∧ ∀ c, ¬ type.Means v c) ↔ ∃ e, bind type v = .error e := by
    rw [Ne, ← none]
    simp only [← bind_eq_some_iff]
    rcases bind type v with e | _ | c <;> simp
  refine ⟨none, fun c => bind_eq_some_iff, fun c => CqlType.Means.holds, error, ?_,
    fun e => bindParameter_of_error⟩
  intro present part
  exact error.1 ⟨present, fun c means => means.null_free part⟩

theorem null_in_list_refused :
    let type : CqlType := .map false (.native .text) (.list true (.native .int))
    let v : Json := .obj [("a", .arr [.int 1]), ("b", .arr [.int 2, .null])]
    ∃ e, Native.bindParameter ⟨"n", type⟩ v =
      .error (.configuration (.unbindableParameter "n" e)) := by
  intro type v
  have present : v ≠ .null := nofun
  have part : Json.IsPart .null v :=
    .member (List.mem_cons_of_mem _ List.mem_cons_self)
      (.item (List.mem_cons_of_mem _ List.mem_cons_self) .self)
  obtain ⟨-, -, -, -, refused, reported⟩ := bind_typed type v
  obtain ⟨e, failed⟩ := refused present part
  exact ⟨e, reported e failed "n"⟩

end CqlValue

end CqlClient
