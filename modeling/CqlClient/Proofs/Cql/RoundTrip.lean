import CqlClient.Proofs.Cql.Typing
import CqlClient.Proofs.Cql.Written
import CqlClient.Proofs.Json.Members

/-!
# Parameters that are read back

What a parameter means at a type is decoded to JSON again. Main statements:

* `cellToJson_of_bind`: at the exact types the parameter itself comes back.
* `map_rebinds_iff`: a map with exact values is accepted again, and means the same, just when its
  keys are texts or it is empty; otherwise it comes back as an array of pairs, from which no map is
  bound.
-/

namespace CqlClient

namespace Json

theorem itemsWellFormed_iff {items : List Json} :
    ItemsWellFormed items ↔ ∀ v ∈ items, v.WellFormed := by
  induction items with
  | nil => simp [ItemsWellFormed]
  | cons v items ih => rw [ItemsWellFormed, ih, List.forall_mem_cons]

theorem membersWellFormed_iff {members : Members} :
    MembersWellFormed members ↔ ∀ m ∈ members, m.2.WellFormed := by
  induction members with
  | nil => simp [MembersWellFormed]
  | cons m members ih => rw [MembersWellFormed, ih, List.forall_mem_cons]

end Json

/-! ## Exact types -/

/-- Texts, truth values, integers and bytes. -/
def NativeType.IsExact : NativeType → Prop
  | .ascii | .text | .boolean | .tinyInt | .smallInt | .int | .bigInt | .counter | .blob => True
  | _ => False

namespace CqlType

def IsText (type : CqlType) : Prop := type = .native .ascii ∨ type = .native .text

/-- The types at which a parameter is kept as it is: exact native types, and lists, sets and maps of
them, the maps with texts as keys. -/
def IsExact : CqlType → Prop
  | .native t => t.IsExact
  | .list _ element => element.IsExact
  | .set _ element => element.IsExact
  | .map _ key value => key.IsText ∧ value.IsExact
  | _ => False

end CqlType

namespace CqlValue

variable {type key value : CqlType} {frozen : Bool} {v : Json} {c : CqlValue} {members : Members}
  {entries : List (CqlValue × CqlValue)}

theorem itemsToJson_eq (items : List CqlValue) : itemsToJson items = items.map toJson := by
  induction items with
  | nil => rfl
  | cons c items ih => rw [itemsToJson, ih, List.map_cons]

theorem valuesToJson_eq (entries : List (CqlValue × CqlValue)) :
    valuesToJson entries = entries.map fun e => e.2.toJson := by
  induction entries with
  | nil => rfl
  | cons e entries ih => rw [valuesToJson, ih, List.map_cons]

theorem entriesToJson_eq (entries : List (CqlValue × CqlValue)) :
    entriesToJson entries = entries.map fun e => .arr [e.1.toJson, e.2.toJson] := by
  induction entries with
  | nil => rfl
  | cons e entries ih => rw [entriesToJson, ih, List.map_cons]

theorem textKeys?_eq_some_iff {keys : List String} : textKeys? entries = some keys ↔
    List.Forall₂ (fun e s => e.1 = .text s ∨ e.1 = .ascii s) entries keys := by
  induction entries generalizing keys with
  | nil => simp [textKeys?, eq_comm]
  | cons e entries ih =>
    obtain ⟨k, c⟩ := e
    cases k <;> simp [textKeys?, List.forall₂_cons_left_iff, ih, eq_comm]

theorem spells_of_means (isText : key.IsText) {s : String} (h : key.Means (.str s) c) :
    c = .text s ∨ c = .ascii s := by
  rcases isText with rfl | rfl
  · cases h
    exact .inr rfl
  · cases h
    exact .inl rfl

theorem isText_of_means {s t : String} (h : key.Means (.str s) c)
    (spells : c = .text t ∨ c = .ascii t) : key.IsText := by
  cases key with
  | native t =>
    rcases spells with rfl | rfl
    · cases h
      exact .inr rfl
    · cases h
      exact .inl rfl
  | _ => exact h.elim

theorem itemsToJson_of_means {element : CqlType} {items : List Json} {values : List CqlValue}
    (read : ∀ {v c}, v.WellFormed → element.Means v c → c.toJson = v)
    (wf : Json.ItemsWellFormed items) (each : List.Forall₂ element.Means items values) :
    itemsToJson values = items := by
  have back : List.Forall₂ (fun c v => toJson c = v) values items :=
    forall₂_of_mem (fun v among _ => read (Json.itemsWellFormed_iff.1 wf v among)) each
  rw [itemsToJson_eq, ← List.forall₂_eq_eq_eq]
  exact List.forall₂_map_left_iff.2 back

/-- Entries with texts as keys are read back as the members they stand for. -/
theorem toJson_map (sorted : (members.map Prod.fst).Pairwise (· < ·))
    (spelt : List.Forall₂ (fun e m => e.1 = .text m.1 ∨ e.1 = .ascii m.1) entries members)
    (read : List.Forall₂ (fun e m => toJson e.2 = m.2) entries members) :
    toJson (.map entries) = .obj members := by
  have keys : textKeys? entries = some (members.map Prod.fst) :=
    textKeys?_eq_some_iff.2 (List.forall₂_map_right_iff.2 spelt)
  have values : valuesToJson entries = members.map Prod.snd := by
    rw [valuesToJson_eq, ← List.forall₂_eq_eq_eq]
    exact List.forall₂_map_left_iff.2 (List.forall₂_map_right_iff.2 read)
  rw [toJson, keys, values]
  dsimp only
  rw [← List.zip_of_prod rfl rfl, Json.ofMembers, Members.normalize_of_sorted sorted]

theorem toJson_of_means (exact : type.IsExact) (wf : v.WellFormed) (h : type.Means v c) :
    c.toJson = v := by
  induction type using CqlType.induct generalizing v c with
  | native t =>
    cases h with
    | ascii | text | boolean | tinyInt | smallInt | int | bigInt | counter | blob => rw [toJson]
    | _ => exact exact.elim
  | list frozen element ih =>
    obtain ⟨items, values, rfl, each, rfl⟩ := CqlType.means_list_iff.1 h
    rw [toJson, itemsToJson_of_means (ih exact) wf each]
  | set frozen element ih =>
    obtain ⟨items, values, rfl, each, rfl⟩ := CqlType.means_set_iff.1 h
    rw [toJson, itemsToJson_of_means (ih exact) wf each]
  | map frozen key value ihKey ihValue =>
    obtain ⟨members, entries, rfl, each, rfl⟩ := CqlType.means_map_iff.1 h
    obtain ⟨isText, exact⟩ := exact
    obtain ⟨sorted, wf⟩ := wf
    refine toJson_map sorted ?_ ?_
    · exact forall₂_of_mem (fun m _ _ means => spells_of_means isText means.1) each
    · exact forall₂_of_mem (fun m among _ means =>
        ihValue exact (Json.membersWellFormed_iff.1 wf m among) means.2) each
  | tuple elements => exact exact.elim
  | vector element dimensions => exact exact.elim
  | userDefined frozen keyspace name fields => exact exact.elim

/-- A parameter that is bound at an exact type is read back as it was, null included. -/
theorem cellToJson_of_bind {type : CqlType} (exact : type.IsExact) {v : Json} (wf : v.WellFormed)
    {cell : Option CqlValue} (bound : bind type v = .ok cell) : cellToJson cell = v := by
  cases cell with
  | none => exact (bind_eq_none_iff.1 bound).symm
  | some c => exact toJson_of_means exact wf (bind_eq_some_iff.1 bound)

theorem nested_map_read_back :
    let type : CqlType := .map false (.native .text)
      (.list true (.map true (.native .ascii) (.set true (.native .tinyInt))))
    let v : Json := .obj [("", .arr []), ("it's", .arr [.obj [], .obj
      [("a", .arr [.int (-128), .int 127, .int 0]), ("b", .arr [])]])]
    ∃ cell, bind type v = .ok cell ∧ cellToJson cell = v := by
  intro type v
  obtain ⟨cell, bound⟩ : ∃ cell, bind type v = .ok cell := ⟨_, rfl⟩
  have exact : type.IsExact := ⟨.inr rfl, .inl rfl, trivial⟩
  have wf : v.WellFormed := by
    simp only [v, Json.WellFormed, Json.ItemsWellFormed, Json.MembersWellFormed]
    decide
  exact ⟨cell, bound, cellToJson_of_bind exact wf bound⟩

/-! ## Maps -/

theorem isWritten_of_means (exact : type.IsExact) (h : type.Means v c) : c.isWritten := by
  induction type using CqlType.induct generalizing v c with
  | native t =>
    cases h with
    | ascii | text | boolean | tinyInt | smallInt | int | bigInt | counter | blob => rfl
    | _ => exact exact.elim
  | list frozen element ih =>
    obtain ⟨items, values, rfl, each, rfl⟩ := CqlType.means_list_iff.1 h
    rw [isWritten, itemsAreWritten_iff]
    intro c among
    obtain ⟨v, -, means⟩ := exists_of_mem_right each among
    exact ih exact means
  | set frozen element ih =>
    obtain ⟨items, values, rfl, each, rfl⟩ := CqlType.means_set_iff.1 h
    rw [isWritten, itemsAreWritten_iff]
    intro c among
    obtain ⟨v, -, means⟩ := exists_of_mem_right each among
    exact ih exact means
  | map frozen key value ihKey ihValue =>
    obtain ⟨members, entries, rfl, each, rfl⟩ := CqlType.means_map_iff.1 h
    obtain ⟨isText, exact⟩ := exact
    rw [isWritten, entriesAreWritten_iff]
    intro e among
    obtain ⟨m, -, meansKey, means⟩ := exists_of_mem_right each among
    refine ⟨?_, ihValue exact means⟩
    rcases spells_of_means isText meansKey with spelt | spelt <;> rw [spelt] <;> rfl
  | tuple elements => exact exact.elim
  | vector element dimensions => exact exact.elim
  | userDefined frozen keyspace name fields => exact exact.elim

theorem toJson_map_of_not_isText (other : ¬ key.IsText) (filled : members ≠ [])
    (each : List.Forall₂ (fun m e => key.Means (.str m.1) e.1 ∧ value.Means m.2 e.2)
      members entries) :
    toJson (.map entries) = .arr (entries.map fun e => .arr [e.1.toJson, e.2.toJson]) := by
  have keys : textKeys? entries = none := by
    by_contra found
    obtain ⟨keys, spelt⟩ := Option.ne_none_iff_exists'.1 found
    obtain ⟨m, among⟩ := List.exists_mem_of_ne_nil members filled
    obtain ⟨e, among, means, -⟩ := exists_of_mem_left each among
    obtain ⟨s, -, spells⟩ := exists_of_mem_left (textKeys?_eq_some_iff.1 spelt) among
    exact other (isText_of_means means spells)
  rw [toJson, keys]
  dsimp only
  rw [entriesToJson_eq]

theorem isWritten_key_iff {s : String} (means : key.Means (.str s) c) :
    c.isWritten ↔ ¬ c.IsOverlong := by
  rw [isWritten_iff_components]
  refine and_iff_left fun d among => ?_
  cases key with
  | native t => cases means <;> cases among
  | _ => exact means.elim

theorem isWritten_map_iff (exact : value.IsExact)
    (each : List.Forall₂ (fun m e => key.Means (.str m.1) e.1 ∧ value.Means m.2 e.2)
      members entries) :
    (map entries).isWritten ↔ ¬ ∃ e ∈ entries, e.1.IsOverlong := by
  rw [isWritten, entriesAreWritten_iff]
  simp only [not_exists, not_and]
  refine forall₂_congr fun e among => ?_
  obtain ⟨m, -, meansKey, means⟩ := exists_of_mem_right each among
  rw [← isWritten_key_iff meansKey]
  exact and_iff_left (isWritten_of_means exact means)

/-- A map with exact values is decoded to one that is bound again, to the same map, just when its
keys are texts or it is empty. Any other is decoded to its pairs, from which no map is bound, unless
the program stops at a key that has too many places. -/
theorem map_rebinds_iff {frozen : Bool} {key value : CqlType} (exact : value.IsExact) {v : Json}
    (wf : v.WellFormed) {entries : List (CqlValue × CqlValue)}
    (bound : bind (.map frozen key value) v = .ok (some (.map entries))) :
    let type : CqlType := .map frozen key value
    ((∃ back, decode? (.map entries) = some back ∧ bind type back = .ok (some (.map entries))) ↔
      key.IsText ∨ v = .obj []) ∧
    (¬ (key.IsText ∨ v = .obj []) →
      (decode? (.map entries) = none ↔ ∃ e ∈ entries, e.1.IsOverlong) ∧
      ∀ back, decode? (.map entries) = some back →
        back = .arr (entries.map fun e => .arr [e.1.toJson, e.2.toJson]) ∧
        bind type back = .error ⟨back, type⟩) := by
  intro type
  have means := bind_eq_some_iff.1 bound
  obtain ⟨members, _, rfl, each, same⟩ := CqlType.means_map_iff.1 means
  cases same
  have kept : key.IsText ∨ members = [] →
      ∃ back, decode? (.map entries) = some back ∧ bind type back = .ok (some (.map entries)) := by
    rintro (isText | rfl)
    · have texts : type.IsExact := ⟨isText, exact⟩
      exact ⟨_, decode?_eq_some_iff.2 ⟨isWritten_of_means texts means, toJson_of_means texts wf means⟩,
        bound⟩
    · cases each
      exact ⟨_, rfl, bound⟩
  have refused (lost : ¬ (key.IsText ∨ members = [])) {back : Json}
      (decoded : decode? (.map entries) = some back) :
      back = .arr (entries.map fun e => .arr [e.1.toJson, e.2.toJson]) ∧
        bind type back = .error ⟨back, type⟩ := by
    obtain ⟨other, filled⟩ := not_or.1 lost
    obtain ⟨-, rfl⟩ := decode?_eq_some_iff.1 decoded
    have pairs := toJson_map_of_not_isText other filled each
    refine ⟨pairs, ?_⟩
    rw [pairs]
    rfl
  rw [Json.obj.injEq]
  refine ⟨⟨?_, kept⟩, fun lost => ⟨?_, fun back decoded => refused lost decoded⟩⟩
  · rintro ⟨back, decoded, again⟩
    by_contra lost
    rw [(refused lost decoded).2] at again
    cases again
  · rw [decode?_eq_none, isWritten_map_iff exact each, not_not]

theorem nested_map_rebinds :
    let type : CqlType :=
      .map false (.native .ascii) (.map true (.native .text) (.list true (.native .smallInt)))
    let v : Json := .obj [("", .obj []),
      ("b", .obj [("c", .arr [.int 3, .int (-1)]), ("d", .arr [])])]
    ∃ entries back, bind type v = .ok (some (.map entries)) ∧
      decode? (.map entries) = some back ∧ bind type back = .ok (some (.map entries)) := by
  intro type v
  obtain ⟨entries, bound⟩ : ∃ entries, bind type v = .ok (some (.map entries)) := ⟨_, rfl⟩
  have exact : CqlType.IsExact (.map true (.native .text) (.list true (.native .smallInt))) :=
    ⟨.inr rfl, trivial⟩
  have wf : v.WellFormed := by
    simp only [v, Json.WellFormed, Json.ItemsWellFormed, Json.MembersWellFormed]
    decide
  obtain ⟨back, again⟩ := (map_rebinds_iff exact wf bound).1.2 (.inl (.inl rfl))
  exact ⟨entries, back, bound, again⟩

/-- A map with UUIDs as keys is bound, and is not bound again as it is decoded. -/
theorem uuid_map_not_rebound :
    let type : CqlType := .map false (.native .uuid) (.native .int)
    let v : Json := .obj [("67e55044-10b1-426f-9247-bb680e5fe0c8", .int 1)]
    ∃ m back, bind type v = .ok (some m) ∧ m.decode? = some back ∧
      ∀ cell, bind type back ≠ .ok cell := by
  intro type v
  obtain ⟨u, read⟩ : ∃ u, Uuid.ofChars? "67e55044-10b1-426f-9247-bb680e5fe0c8".toList = some u :=
    Option.isSome_iff_exists.1 (by decide)
  have fits : FitsBits 32 1 := by decide
  have means : type.Means v (.map [(.uuid u, .int 1)]) :=
    CqlType.means_map_iff.2 ⟨_, [(.uuid u, .int 1)], rfl, .cons ⟨.uuid read, .int fits⟩ .nil, rfl⟩
  refine ⟨_, _, bind_eq_some_iff.2 means, rfl, fun cell again => ?_⟩
  cases again

end CqlValue

end CqlClient
