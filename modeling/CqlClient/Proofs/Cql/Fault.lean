import CqlClient.Proofs.Cql.Typing

/-!
# What a fault of binding names

A parameter that has no meaning at its type has a first place at which there is none: `StopsAt` says
where, going into collections in the order of their items and members. Main statement:

* `fault_names_place`: a fault names what stands at this place, and the type that it was to be bound
  to there, unless it stands in place of a list or a set and is no array: then the fault names the
  type of the elements.
-/

namespace CqlClient

namespace CqlType

variable {frozen : Bool} {type element key value t t' : CqlType} {v part part' : Json}

/-! ## Values without a meaning -/

/-- A value that has a meaning at the type. -/
def Accepts (type : CqlType) (v : Json) : Prop := ∃ c, type.Means v c

/-- A member whose name and value have meanings at the types of a map's keys and values. -/
def AcceptsEntry (key value : CqlType) (m : String × Json) : Prop :=
  key.Accepts (.str m.1) ∧ value.Accepts m.2

/-- The type of the elements of a list or of a set. -/
def element? : CqlType → Option CqlType
  | .list _ element => some element
  | .set _ element => some element
  | _ => none

/-- The values whose items or members a collection type binds one by one. -/
inductive Opens : CqlType → Json → Prop
  | items {type element : CqlType} (of : type.element? = some element) (items : List Json) :
      Opens type (.arr items)
  | members (frozen : Bool) (key value : CqlType) (members : Members) :
      Opens (.map frozen key value) (.obj members)

/-- Something in place of a list or of a set that is no array. -/
structure Misfit (t element : CqlType) (part : Json) : Prop where
  of : t.element? = some element
  present : part ≠ .null
  noArray : ∀ items, part ≠ .arr items

theorem element?_ne (of : type.element? = some element) : element ≠ type := by
  rintro rfl
  cases element with
  | list frozen element =>
    have same := congrArg sizeOf (Option.some.inj of)
    simp only [list.sizeOf_spec] at same
    omega
  | set frozen element =>
    have same := congrArg sizeOf (Option.some.inj of)
    simp only [set.sizeOf_spec] at same
    omega
  | _ => cases of

theorem not_accepts_null : ¬ type.Accepts .null := fun ⟨_, means⟩ => means.null_free .self

theorem accepts_items_iff (of : type.element? = some element) {items : List Json} :
    type.Accepts (.arr items) ↔ ∀ v ∈ items, element.Accepts v := by
  unfold Accepts
  rw [← exists_forall₂_iff]
  cases type with
  | list => cases of; simp [means_list_iff]
  | set => cases of; simp [means_set_iff]
  | _ => cases of

theorem accepts_members_iff {members : Members} :
    (map frozen key value).Accepts (.obj members) ↔ ∀ m ∈ members, AcceptsEntry key value m := by
  unfold Accepts AcceptsEntry
  simp only [means_map_iff, Json.obj.injEq, exists_and_left, exists_eq_left']
  rw [exists_comm]
  simp only [exists_and_left, exists_eq', and_true, exists_forall₂_iff, Prod.exists,
    Accepts, exists_and_right]

/-! ## Places -/

/-- To bind `v` at `type`, this part of it is bound at this type. -/
inductive Asks : CqlType → Json → CqlType → Json → Prop
  | self (type : CqlType) (v : Json) : Asks type v type v
  | item {type element t : CqlType} {items : List Json} {v part : Json}
      (of : type.element? = some element) (among : v ∈ items) (within : Asks element v t part) :
      Asks type (.arr items) t part
  | key {frozen : Bool} {key value t : CqlType} {members : Members} {m : String × Json}
      {part : Json} (among : m ∈ members) (within : Asks key (.str m.1) t part) :
      Asks (.map frozen key value) (.obj members) t part
  | value {frozen : Bool} {key value t : CqlType} {members : Members} {m : String × Json}
      {part : Json} (among : m ∈ members) (within : Asks value m.2 t part) :
      Asks (.map frozen key value) (.obj members) t part

/-- The first place, in the order of items and members, at which what stands there has no meaning.
A member that is null leaves the map without one. -/
inductive StopsAt : CqlType → Json → CqlType → Json → Prop
  | here {type : CqlType} {v : Json} (closed : ¬ type.Opens v) (meaningless : ¬ type.Accepts v) :
      StopsAt type v type v
  | item {type element t : CqlType} {before after : List Json} {v part : Json}
      (of : type.element? = some element) (earlier : ∀ w ∈ before, element.Accepts w)
      (within : StopsAt element v t part) : StopsAt type (.arr (before ++ v :: after)) t part
  | key {frozen : Bool} {key value t : CqlType} {before after : Members} {m : String × Json}
      {part : Json} (earlier : ∀ m ∈ before, AcceptsEntry key value m)
      (within : StopsAt key (.str m.1) t part) :
      StopsAt (.map frozen key value) (.obj (before ++ m :: after)) t part
  | value {frozen : Bool} {key value t : CqlType} {before after : Members} {m : String × Json}
      {part : Json} (earlier : ∀ m ∈ before, AcceptsEntry key value m)
      (named : key.Accepts (.str m.1)) (present : m.2 ≠ .null) (within : StopsAt value m.2 t part) :
      StopsAt (.map frozen key value) (.obj (before ++ m :: after)) t part
  | absent {frozen : Bool} {key value : CqlType} {before after : Members} {m : String × Json}
      (earlier : ∀ m ∈ before, AcceptsEntry key value m) (named : key.Accepts (.str m.1))
      (null : m.2 = .null) :
      StopsAt (.map frozen key value) (.obj (before ++ m :: after)) (.map frozen key value)
        (.obj (before ++ m :: after))

namespace StopsAt

theorem meaningless (h : StopsAt type v t part) : ¬ type.Accepts v := by
  induction h with
  | here _ meaningless => exact meaningless
  | item of _ _ ih =>
    rw [accepts_items_iff of]
    exact fun each => ih (each _ List.mem_append_cons_self)
  | key _ _ ih =>
    rw [accepts_members_iff]
    exact fun each => ih (each _ List.mem_append_cons_self).1
  | value _ _ _ _ ih =>
    rw [accepts_members_iff]
    exact fun each => ih (each _ List.mem_append_cons_self).2
  | absent _ _ null =>
    rw [accepts_members_iff]
    intro each
    exact not_accepts_null (null ▸ (each _ List.mem_append_cons_self).2)

theorem part_meaningless (h : StopsAt type v t part) : ¬ t.Accepts part := by
  induction h with
  | here _ meaningless => exact meaningless
  | item _ _ _ ih => exact ih
  | key _ _ ih => exact ih
  | value _ _ _ _ ih => exact ih
  | absent earlier named null => exact (absent earlier named null).meaningless

theorem asks (h : StopsAt type v t part) : type.Asks v t part := by
  induction h with
  | here _ _ => exact .self _ _
  | item of _ _ ih => exact .item of List.mem_append_cons_self ih
  | key _ _ ih => exact .key List.mem_append_cons_self ih
  | value _ _ _ _ ih => exact .value List.mem_append_cons_self ih
  | absent _ _ _ => exact .self _ _

theorem of_closed (closed : ¬ type.Opens v) (h : StopsAt type v t part) : t = type ∧ part = v := by
  cases h with
  | here => exact ⟨rfl, rfl⟩
  | item of => exact absurd (.items of _) closed
  | key => exact absurd (.members ..) closed
  | value => exact absurd (.members ..) closed
  | absent => exact absurd (.members ..) closed

theorem at_item {before after : List Json} {w : Json} (of : type.element? = some element)
    (earlier : ∀ w ∈ before, element.Accepts w) (refused : ¬ element.Accepts w)
    (h : StopsAt type (.arr (before ++ w :: after)) t part) : StopsAt element w t part := by
  generalize whole : Json.arr (before ++ w :: after) = v at h
  cases h with
  | here closed =>
    subst whole
    exact absurd (.items of _) closed
  | item of' earlier' within =>
    cases of.symm.trans of'
    rw [first_not_unique (Json.arr.inj whole) earlier refused earlier' within.meaningless]
    exact within
  | _ => cases whole

theorem at_member {before after : Members} {m : String × Json}
    (earlier : ∀ m ∈ before, AcceptsEntry key value m) (refused : ¬ AcceptsEntry key value m)
    (h : StopsAt (.map frozen key value) (.obj (before ++ m :: after)) t part) :
    StopsAt key (.str m.1) t part ∨ key.Accepts (.str m.1) ∧
      (m.2 ≠ .null ∧ StopsAt value m.2 t part ∨
        m.2 = .null ∧ t = .map frozen key value ∧ part = .obj (before ++ m :: after)) := by
  generalize whole : Json.obj (before ++ m :: after) = v at h
  cases h with
  | here closed =>
    subst whole
    exact absurd (.members ..) closed
  | item => cases whole
  | key earlier' within =>
    have refused' := fun entry : AcceptsEntry key value _ => within.meaningless entry.1
    rw [first_not_unique (Json.obj.inj whole) earlier refused earlier' refused']
    exact .inl within
  | value earlier' named present within =>
    have refused' := fun entry : AcceptsEntry key value _ => within.meaningless entry.2
    rw [first_not_unique (Json.obj.inj whole) earlier refused earlier' refused']
    exact .inr ⟨named, .inl ⟨present, within⟩⟩
  | absent earlier' named null =>
    have refused' := fun entry : AcceptsEntry key value _ => not_accepts_null (null ▸ entry.2)
    rw [first_not_unique (Json.obj.inj whole) earlier refused earlier' refused']
    exact .inr ⟨named, .inr ⟨null, rfl, rfl⟩⟩

theorem unique (h : StopsAt type v t part) (h' : StopsAt type v t' part') :
    t' = t ∧ part' = part := by
  -- at every level the first refused item or member is the same for both
  induction h with
  | here closed _ => exact of_closed closed h'
  | item of earlier within ih => exact ih (h'.at_item of earlier within.meaningless)
  | key earlier within ih =>
    obtain within' | ⟨named, -⟩ := h'.at_member earlier fun entry => within.meaningless entry.1
    · exact ih within'
    · exact absurd named within.meaningless
  | value earlier named present within ih =>
    obtain within' | ⟨-, ⟨-, within'⟩ | ⟨null, -⟩⟩ :=
      h'.at_member earlier fun entry => within.meaningless entry.2
    · exact absurd named within'.meaningless
    · exact ih within'
    · exact absurd null present
  | absent earlier named null =>
    obtain within' | ⟨-, ⟨present, -⟩ | ⟨-, here⟩⟩ :=
      h'.at_member earlier fun entry => not_accepts_null (null ▸ entry.2)
    · exact absurd named within'.meaningless
    · exact absurd null present
    · exact here

end StopsAt

theorem exists_stopsAt_items {items : List Json} (of : type.element? = some element)
    (ih : ∀ {v}, ¬ element.Accepts v → ∃ t part, element.StopsAt v t part)
    (meaningless : ¬ type.Accepts (.arr items)) : ∃ t part, type.StopsAt (.arr items) t part := by
  rw [accepts_items_iff of] at meaningless
  obtain ⟨before, v, after, rfl, earlier, refused⟩ := exists_first_not meaningless
  obtain ⟨t, part, within⟩ := ih refused
  exact ⟨t, part, .item of earlier within⟩

theorem exists_stopsAt_members {members : Members}
    (ihKey : ∀ {v}, ¬ key.Accepts v → ∃ t part, key.StopsAt v t part)
    (ihValue : ∀ {v}, ¬ value.Accepts v → ∃ t part, value.StopsAt v t part)
    (meaningless : ¬ (map frozen key value).Accepts (.obj members)) :
    ∃ t part, (map frozen key value).StopsAt (.obj members) t part := by
  rw [accepts_members_iff] at meaningless
  obtain ⟨before, m, after, rfl, earlier, refused⟩ := exists_first_not meaningless
  by_cases named : key.Accepts (.str m.1)
  · by_cases null : m.2 = .null
    · exact ⟨_, _, .absent earlier named null⟩
    · obtain ⟨t, part, within⟩ := ihValue fun accepted => refused ⟨named, accepted⟩
      exact ⟨t, part, .value earlier named null within⟩
  · obtain ⟨t, part, within⟩ := ihKey named
    exact ⟨t, part, .key earlier within⟩

theorem exists_stopsAt (meaningless : ¬ type.Accepts v) : ∃ t part, type.StopsAt v t part := by
  induction type using induct generalizing v with
  | list frozen element ih =>
    cases v with
    | arr items => exact exists_stopsAt_items rfl ih meaningless
    | _ => exact ⟨_, _, .here nofun meaningless⟩
  | set frozen element ih =>
    cases v with
    | arr items => exact exists_stopsAt_items rfl ih meaningless
    | _ => exact ⟨_, _, .here nofun meaningless⟩
  | map frozen key value ihKey ihValue =>
    cases v with
    | obj members => exact exists_stopsAt_members ihKey ihValue meaningless
    | _ => exact ⟨_, _, .here nofun meaningless⟩
  | _ => exact ⟨_, _, .here nofun meaningless⟩

end CqlType

/-! ## Faults -/

namespace CqlValue

variable {frozen : Bool} {type element key value t : CqlType} {v part : Json} {e : BindFault}

/-- Binding where a value may not be left out. -/
def bindPresent (type : CqlType) (v : Json) : Except BindFault CqlValue := do
  orFault v type (← bind type v)

def bindEntry (whole : Json) (type key value : CqlType) (m : String × Json) :
    Except BindFault (CqlValue × CqlValue) := do
  let key ← orFault whole type (← bind key (.str m.1))
  let item ← orFault whole type (← bind value m.2)
  .ok (key, item)

/-- What a fault names when binding stops at `part`, which was to be bound at `t`. -/
def blamed (t : CqlType) : Json → BindFault
  | .null => ⟨.null, t⟩
  | part => ⟨part, t.element?.getD t⟩

theorem bindEntries_eq_mapM {whole : Json} {members : Members} :
    bindEntries whole type (bind key) (bind value) members =
      members.mapM (bindEntry whole type key value) := by
  induction members with
  | nil => rfl
  | cons m members ih =>
    rw [bindEntries, List.mapM_cons, ih, bindEntry]
    simp only [bind_assoc]
    rfl

theorem bindPresent_of_accepts (accepted : type.Accepts v) : ∃ c, bindPresent type v = .ok c := by
  obtain ⟨c, means⟩ := accepted
  exact ⟨c, by rw [bindPresent, bind_eq_some_iff.2 means]; rfl⟩

theorem bindEntry_of_accepts {whole : Json} {m : String × Json}
    (accepted : CqlType.AcceptsEntry key value m) :
    ∃ entry, bindEntry whole type key value m = .ok entry := by
  obtain ⟨⟨c, named⟩, c', means⟩ := accepted
  exact ⟨(c, c'), by rw [bindEntry, bind_eq_some_iff.2 named, bind_eq_some_iff.2 means]; rfl⟩

theorem bindPresent_of_error (failed : bind type v = .error e) : bindPresent type v = .error e := by
  rw [bindPresent, failed]
  rfl

theorem error_of_bindPresent (present : v ≠ .null) (failed : bindPresent type v = .error e) :
    bind type v = .error e := by
  obtain failed | ⟨bound, given, failed⟩ := bind_eq_error.1 failed
  · exact failed
  · cases bound with
    | none => exact absurd (bind_eq_none_iff.1 given) present
    | some c => cases failed

theorem bindPresent_null : bindPresent type .null = .error ⟨.null, type⟩ := by
  rw [bindPresent, bind_eq_none_iff.2 rfl]
  rfl

theorem bindPresent_items (of : type.element? = some element) {before after : List Json} {w : Json}
    (earlier : ∀ w ∈ before, element.Accepts w) (failed : bindPresent element w = .error e) :
    bindPresent type (.arr (before ++ w :: after)) = .error e := by
  have items : (before ++ w :: after).mapM (bindPresent element) = .error e :=
    mapM_eq_error.2 ⟨_, _, _, rfl, fun w among => bindPresent_of_accepts (earlier w among), failed⟩
  have elements : bindElements element (bind element) (.arr (before ++ w :: after)) = .error e :=
    items
  apply bindPresent_of_error
  cases type with
  | list =>
    cases of
    rw [bind, elements]
    · rfl
    · simp
  | set =>
    cases of
    rw [bind, elements]
    · rfl
    · simp
  | _ => cases of

theorem bindPresent_members {before after : Members} {m : String × Json}
    (earlier : ∀ m ∈ before, CqlType.AcceptsEntry key value m)
    (failed : bindEntry (.obj (before ++ m :: after)) (.map frozen key value) key value m =
      .error e) :
    bindPresent (.map frozen key value) (.obj (before ++ m :: after)) = .error e := by
  have entries : bindEntries (.obj (before ++ m :: after)) (.map frozen key value) (bind key)
      (bind value) (before ++ m :: after) = .error e := by
    rw [bindEntries_eq_mapM]
    exact mapM_eq_error.2
      ⟨_, _, _, rfl, fun m among => bindEntry_of_accepts (earlier m among), failed⟩
  apply bindPresent_of_error
  rw [bind, entries]
  rfl

theorem bind_of_closed (present : v ≠ .null) (closed : ¬ type.Opens v)
    (meaningless : ¬ type.Accepts v) : bind type v = .error ⟨v, type.element?.getD type⟩ := by
  cases type with
  | native t =>
    have none : ofNative? t v = none :=
      Option.eq_none_iff_forall_ne_some.2 fun c h => meaningless ⟨c, means_of_ofNative? h⟩
    rw [bind, none]
    · rfl
    · exact present
  | list frozen element =>
    cases v with
    | null => exact absurd rfl present
    | arr items => exact absurd (.items rfl items) closed
    | _ => rfl
  | set frozen element =>
    cases v with
    | null => exact absurd rfl present
    | arr items => exact absurd (.items rfl items) closed
    | _ => rfl
  | map frozen key value =>
    cases v with
    | null => exact absurd rfl present
    | obj members => exact absurd (.members ..) closed
    | _ => rfl
  | _ =>
    cases v with
    | null => exact absurd rfl present
    | _ => rfl

theorem bindPresent_of_stopsAt (h : type.StopsAt v t part) :
    bindPresent type v = .error (blamed t part) := by
  induction h with
  | @here type v closed meaningless =>
    by_cases null : v = .null
    · rw [null, bindPresent_null, blamed]
    · rw [bindPresent_of_error (bind_of_closed null closed meaningless), blamed]
      exact null
  | item of earlier _ ih => exact bindPresent_items of earlier ih
  | key earlier _ ih =>
    refine bindPresent_members earlier ?_
    rw [bindEntry, error_of_bindPresent (by simp) ih]
    rfl
  | value earlier named present _ ih =>
    obtain ⟨c, named⟩ := named
    refine bindPresent_members earlier ?_
    rw [bindEntry, bind_eq_some_iff.2 named, error_of_bindPresent present ih]
    rfl
  | absent earlier named null =>
    -- no member of its own type is at fault here, the map is
    obtain ⟨c, named⟩ := named
    refine bindPresent_members earlier ?_
    rw [bindEntry, bind_eq_some_iff.2 named, null, bind_eq_none_iff.2 rfl]
    rfl

theorem stopsAt_closed (h : type.StopsAt v t part) (of : t.element? = some element) :
    ∀ items, part ≠ .arr items := by
  induction h with
  | here closed _ =>
    rintro items rfl
    exact closed (.items of items)
  | item _ _ _ ih => exact ih of
  | key _ _ ih => exact ih of
  | value _ _ _ _ ih => exact ih of
  | absent => cases of

theorem blamed_value (t : CqlType) (part : Json) : (blamed t part).value = part := by
  cases part <;> rfl

theorem blamed_of_misfit (misfit : t.Misfit element part) : blamed t part = ⟨part, element⟩ := by
  rw [blamed, misfit.of, Option.getD_some]
  exact misfit.present

theorem blamed_of_no_misfit (h : type.StopsAt v t part)
    (fits : ¬ ∃ element, t.Misfit element part) : blamed t part = ⟨part, t⟩ := by
  by_cases null : part = .null
  · rw [null, blamed]
  · cases of : t.element? with
    | none =>
      rw [blamed, of, Option.getD_none]
      exact null
    | some element => exact absurd ⟨element, of, null, stopsAt_closed h of⟩ fits

theorem refused_iff (present : v ≠ .null) :
    (∃ e, bind type v = .error e) ↔ ¬ type.Accepts v := by
  simp only [CqlType.Accepts, ← bind_eq_some_iff]
  rcases bound : bind type v with e | _ | c
  · simp
  · exact absurd (bind_eq_none_iff.1 bound) present
  · simp

/-- A fault is about the first place without a meaning. It names what stands there, and the type
that this was to be bound to, except where something else than an array stands in place of a list or
of a set: then it names the type of the elements. -/
theorem fault_names_place (present : v ≠ .null) (failed : bind type v = .error e) :
    ∃ t part, type.StopsAt v t part ∧
      (∀ t' part', type.StopsAt v t' part' → t' = t ∧ part' = part) ∧
      type.Asks v t part ∧ (part = .null ∨ ∃ e', bind t part = .error e') ∧
      e.message = "Cannot bind " ++ part.text ++ " as " ++ e.type.describe ∧
      (e = ⟨part, t⟩ ↔ ¬ ∃ element, t.Misfit element part) ∧
      ∀ element, t.Misfit element part → e = ⟨part, element⟩ := by
  obtain ⟨t, part, stops⟩ := CqlType.exists_stopsAt ((refused_iff present).1 ⟨e, failed⟩)
  have stopped := error_of_bindPresent present (bindPresent_of_stopsAt stops)
  obtain rfl : blamed t part = e := Except.error.inj (stopped.symm.trans failed)
  refine ⟨t, part, stops, fun t' part' => stops.unique, stops.asks, ?_, ?_, ?_, ?_⟩
  · by_cases null : part = .null
    · exact .inl null
    · exact .inr ((refused_iff null).2 stops.part_meaningless)
  · rw [BindFault.message, blamed_value]
  · constructor
    · rintro same ⟨element, misfit⟩
      have types := congrArg BindFault.type ((blamed_of_misfit misfit).symm.trans same)
      exact CqlType.element?_ne misfit.of types
    · exact blamed_of_no_misfit stops
  · exact fun element => blamed_of_misfit

theorem text_in_place_of_list :
    let type : CqlType := .list false (.native .text)
    let v : Json := .str "abc"
    ∃ e, bind type v = .error e ∧ e.message = "Cannot bind \"abc\" as Native(Text)" ∧
      (∀ t part, type.StopsAt v t part → t = type ∧ part = v) ∧ e ≠ ⟨v, type⟩ ∧
      bind e.type e.value = .ok (some (.text "abc")) := by
  intro type v
  have present : v ≠ .null := nofun
  have failed : bind type v = .error ⟨v, .native .text⟩ := rfl
  obtain ⟨t, part, stops, only, -, -, message, belongs, -⟩ := fault_names_place present failed
  have closed : ¬ CqlType.Opens (.list false (.native .text)) (.str "abc") := nofun
  obtain ⟨rfl, rfl⟩ := stops.of_closed closed
  have misfit : type.Misfit (.native .text) v := ⟨rfl, present, nofun⟩
  have written : "Cannot bind " ++ v.text ++ " as " ++ (CqlType.native .text).describe =
    "Cannot bind \"abc\" as Native(Text)" := by decide
  exact ⟨_, failed, message.trans written, only, fun same => belongs.1 same ⟨_, misfit⟩, rfl⟩

end CqlValue

end CqlClient
