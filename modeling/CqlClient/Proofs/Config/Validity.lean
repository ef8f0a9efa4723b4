import CqlClient.Config.Document
import CqlClient.Config.Yaml
import CqlClient.Connector.Basic
import CqlClient.Proofs.Except
import CqlClient.Proofs.Json.Reading

/-!
# Valid configurations

A configuration read from a text is one that a transport can use, and the text of such a
configuration is read as it. While settings are read, the draft holds those that have occurred,
`Draft.of`; by `setting_isRead` each of them finds its place, so that their order does not matter.
-/

namespace CqlClient

namespace Config

open Json (Document ReadError Spells)

variable {c : Config} {key : String} {keys : List String} {members : Members}
  {m : String × Json}

/-- Seconds are counted in 64 bits. -/
structure InRange (c : Config) : Prop where
  connect : ∀ n ∈ c.connectTimeoutSecs, n < 2 ^ 64
  request : ∀ n ∈ c.requestTimeoutSecs, n < 2 ^ 64

/-- What a transport can use. -/
structure IsUsable (c : Config) : Prop where
  reachable : c.contactPoints ≠ []
  filled : ∀ point ∈ c.contactPoints, ∃ ch ∈ point.toList, ¬ Text.isBlank ch
  named : c.keyspace ≠ some ""
  paired : c.username.isSome ↔ c.password.isSome

theorem fault?_eq_none_iff : c.fault? = none ↔ c.IsUsable := by
  have blank (point : String) :
      ¬ Text.isBlankText point ↔ ∃ ch ∈ point.toList, ¬ Text.isBlank ch := by
    simp [Text.isBlankText]
  have points : c.contactPoints.find? Text.isBlankText = none ↔
      ∀ point ∈ c.contactPoints, ∃ ch ∈ point.toList, ¬ Text.isBlank ch := by
    simp only [List.find?_eq_none, blank]
  have conditions : c.fault? = none ↔ c.contactPoints ≠ [] ∧
      c.contactPoints.find? Text.isBlankText = none ∧ c.keyspace ≠ some "" ∧
        c.username.isSome = c.password.isSome := by
    by_cases reachable : c.contactPoints = []
    · simp [fault?, reachable]
    cases found : c.contactPoints.find? Text.isBlankText with
    | some point => simp [fault?, reachable, found]
    | none =>
      by_cases named : c.keyspace = some ""
      · simp [fault?, reachable, found, named]
      · simp [fault?, reachable, found, named]
  rw [conditions, points, Bool.eq_iff_iff]
  exact ⟨fun ⟨reachable, filled, named, paired⟩ => ⟨reachable, filled, named, paired⟩,
    fun h => ⟨h.reachable, h.filled, h.named, h.paired⟩⟩

theorem validated_eq_ok_iff {d : Config} : c.validated = .ok d ↔ c.IsUsable ∧ d = c := by
  rw [validated, ← fault?_eq_none_iff]
  cases c.fault? with
  | none => simp [eq_comm]
  | some fault => simp

/-! ## Settings find their place -/

/-- What has been read once the settings with these keys have occurred. -/
def Draft.of (c : Config) (keys : List String) : Draft where
  contactPoints := if "contact_points" ∈ keys then some c.contactPoints else none
  localDatacenter := if "local_datacenter" ∈ keys then some c.localDatacenter else none
  keyspace := if "keyspace" ∈ keys then some c.keyspace else none
  username := if "username" ∈ keys then some c.username else none
  password := if "password" ∈ keys then some c.password else none
  connectTimeoutSecs := if "connect_timeout_secs" ∈ keys then some c.connectTimeoutSecs else none
  requestTimeoutSecs := if "request_timeout_secs" ∈ keys then some c.requestTimeoutSecs else none

/-- The setting is written as the document, which puts it in its place. -/
structure IsRead (c : Config) (m : String × Json) (doc : Document × Document) : Prop where
  member : Spells.Member m doc
  set_eq : ∀ keys, m.1 ∉ keys →
    (Draft.of c keys).set m.1 doc.2 = .ok (Draft.of c (m.1 :: keys))

theorem mem_optional {v : Option Json} :
    m ∈ Json.optional key v ↔ m.1 = key ∧ v = some m.2 := by
  obtain ⟨k, w⟩ := m
  cases v <;> simp [Json.optional, eq_comm]

theorem asTexts_texts (texts : List String) :
    Document.asTexts (.arr (texts.map fun s => .str (some s))) = .ok texts := by
  rw [Document.asTexts, mapM_eq_ok, List.forall₂_map_left_iff]
  exact List.forall₂_same.2 fun s _ => rfl

theorem optionalText_str (s : String) : Draft.optionalText (.str (some s)) = .ok (some s) := rfl

theorem optionalNatural_ofNat {n : Nat} (small : n < 2 ^ 64) :
    Draft.optionalNatural (.number (.ofNat n)) = .ok (some n) := by
  have read : Document.asNatural (.number (.ofNat n)) = .ok n := by
    simp [Document.asNatural, NumberText.value?_ofNat small]
  rw [Draft.optionalNatural, Document.nullable, read]
  · rfl
  · nofun

theorem setting_isRead (inRange : c.InRange) (h : m ∈ c.settings) : ∃ doc, c.IsRead m doc := by
  obtain ⟨key, v⟩ := m
  simp only [settings, List.mem_append, mem_optional, List.mem_singleton, Prod.mk.injEq,
    Option.map_eq_some_iff] at h
  have points : Spells (.arr (c.contactPoints.map .str))
      (.arr (c.contactPoints.map fun s => .str (some s))) := by
    refine .arr ?_
    rw [List.forall₂_map_left_iff, List.forall₂_map_right_iff]
    exact List.forall₂_same.2 fun s _ => .str s
  have text {key s : String} (set_eq : ∀ keys, key ∉ keys →
      (Draft.of c keys).set key (.str (some s)) = .ok (Draft.of c (key :: keys))) :
      ∃ doc, c.IsRead (key, .str s) doc :=
    ⟨(.str (some key), .str (some s)), ⟨rfl, .str s⟩, set_eq⟩
  have natural {key : String} {n : Nat} (set_eq : ∀ keys, key ∉ keys →
      (Draft.of c keys).set key (.number (.ofNat n)) = .ok (Draft.of c (key :: keys))) :
      ∃ doc, c.IsRead (key, .int n) doc :=
    ⟨(.str (some key), .number (.ofNat n)), ⟨rfl, .ofNat n⟩, set_eq⟩
  rcases h with (((((⟨rfl, rfl⟩ | ⟨rfl, s, given, rfl⟩) | ⟨rfl, s, given, rfl⟩) |
    ⟨rfl, s, given, rfl⟩) | ⟨rfl, s, given, rfl⟩) | ⟨rfl, n, given, rfl⟩) | ⟨rfl, n, given, rfl⟩
  · refine ⟨(.str (some "contact_points"), _), ⟨rfl, points⟩, fun keys fresh => ?_⟩
    simp only at fresh
    simp [Draft.set, Draft.of, Draft.once, fresh, asTexts_texts]
    rfl
  · refine text fun keys fresh => ?_
    simp [Draft.set, Draft.of, Draft.once, fresh, given, optionalText_str]
    rfl
  · refine text fun keys fresh => ?_
    simp [Draft.set, Draft.of, Draft.once, fresh, given, optionalText_str]
    rfl
  · refine text fun keys fresh => ?_
    simp [Draft.set, Draft.of, Draft.once, fresh, given, optionalText_str]
    rfl
  · refine text fun keys fresh => ?_
    simp [Draft.set, Draft.of, Draft.once, fresh, given, optionalText_str]
    rfl
  · refine natural fun keys fresh => ?_
    simp [Draft.set, Draft.of, Draft.once, fresh, given,
      optionalNatural_ofNat (inRange.connect n given)]
    rfl
  · refine natural fun keys fresh => ?_
    simp [Draft.set, Draft.of, Draft.once, fresh, given,
      optionalNatural_ofNat (inRange.request n given)]
    rfl

/-! ## Texts of configurations -/

theorem ofMembers_of_isRead {docs : List (Document × Document)}
    (each : List.Forall₂ c.IsRead members docs) (distinct : (members.map Prod.fst).Nodup)
    (fresh : ∀ m ∈ members, m.1 ∉ keys) :
    (Draft.of c keys).ofMembers docs = .ok (Draft.of c ((members.map Prod.fst).reverse ++ keys)) := by
  induction each generalizing keys with
  | nil => rfl
  | @cons m doc members docs read rest ih =>
    obtain ⟨apart, distinct⟩ := List.nodup_cons.1 distinct
    obtain ⟨new, fresh⟩ := List.forall_mem_cons.1 fresh
    obtain ⟨key, doc⟩ := doc
    obtain ⟨⟨rfl, spelled⟩, set_eq⟩ := read
    have later : ∀ m' ∈ members, m'.1 ∉ m.1 :: keys := fun m' among =>
      mt List.mem_cons.1 <| not_or.2
        ⟨fun same => apart (same ▸ List.mem_map_of_mem among), fresh m' among⟩
    rw [Draft.ofMembers, set_eq keys new]
    refine (ih distinct later).trans ?_
    rw [List.map_cons, List.reverse_cons, List.append_assoc, List.singleton_append]

theorem finish_of {missing : ReadError}
    (complete : ∀ m ∈ c.settings, m.1 ∈ keys) : (Draft.of c keys).finish missing = .ok c := by
  have points : "contact_points" ∈ keys :=
    complete ("contact_points", .arr (c.contactPoints.map .str)) (by simp [settings])
  have setting {α : Type} (key : String) (x : Option α) (occurs : ∀ a, x = some a → key ∈ keys) :
      (if key ∈ keys then some x else none).join = x := by
    cases x with
    | none => split <;> rfl
    | some a => rw [if_pos (occurs a rfl)]; rfl
  have datacenter := setting "local_datacenter" c.localDatacenter fun a set =>
    complete ("local_datacenter", .str a) (by simp [settings, mem_optional, set])
  have keyspace := setting "keyspace" c.keyspace fun a set =>
    complete ("keyspace", .str a) (by simp [settings, mem_optional, set])
  have username := setting "username" c.username fun a set =>
    complete ("username", .str a) (by simp [settings, mem_optional, set])
  have password := setting "password" c.password fun a set =>
    complete ("password", .str a) (by simp [settings, mem_optional, set])
  have connect := setting "connect_timeout_secs" c.connectTimeoutSecs fun n set =>
    complete ("connect_timeout_secs", .int n) (by simp [settings, mem_optional, set])
  have request := setting "request_timeout_secs" c.requestTimeoutSecs fun n set =>
    complete ("request_timeout_secs", .int n) (by simp [settings, mem_optional, set])
  simp only [Draft.finish, Draft.of, if_pos points, datacenter, keyspace, username, password, connect,
    request]

theorem read_text (inRange : c.InRange) (distinct : (members.map Prod.fst).Nodup)
    (same : ∀ m, m ∈ members ↔ m ∈ c.settings) : read (Json.obj members).text = .ok c := by
  obtain ⟨docs, each⟩ := exists_forall₂_iff.2 fun m among => setting_isRead inRange ((same m).1 among)
  have spelled : Spells (.obj members) (.obj docs) := .obj (each.imp fun _ _ read => read.member)
  have drafted : (Draft.of c []).ofMembers docs = _ := ofMembers_of_isRead each distinct (by simp)
  have complete : ∀ m ∈ c.settings, m.1 ∈ (members.map Prod.fst).reverse ++ [] := by
    intro m among
    rw [List.append_nil, List.mem_reverse]
    exact List.mem_map_of_mem ((same m).2 among)
  have start : Draft.of c [] = {} := by simp [Draft.of]
  rw [start] at drafted
  rw [read, spelled.ofText_text]
  have whole : ofDocument (.obj docs) = .ok c := by
    rw [ofDocument, drafted]
    exact finish_of complete
  simp only [whole, if_true]

theorem keys_optional (key : String) (v : Option Json) :
    ((Json.optional key v).map Prod.fst).Sublist [key] := by
  cases v <;> simp [Json.optional]

theorem nodup_keys_settings (c : Config) : (c.settings.map Prod.fst).Nodup := by
  have among : (c.settings.map Prod.fst).Sublist Config.keys := by
    simp only [settings, List.map_append]
    exact (((((((List.Sublist.refl ["contact_points"]).append (keys_optional ..)).append
      (keys_optional ..)).append (keys_optional ..)).append (keys_optional ..)).append
      (keys_optional ..)).append (keys_optional ..))
  exact among.nodup (by decide)

theorem read_toJsonText (inRange : c.InRange) : read c.toJsonText = .ok c :=
  read_text inRange (nodup_keys_settings c) fun _ => Iff.rfl

/-- The JSON form has the settings in the order of their keys. -/
theorem read_text_toJson (inRange : c.InRange) : read c.toJson.text = .ok c := by
  refine read_text inRange ?_ fun m => ?_
  · have sorted : ["connect_timeout_secs", "contact_points", "keyspace", "local_datacenter",
        "password", "request_timeout_secs", "username"].Nodup := by decide
    refine List.Sublist.nodup ?_ sorted
    simp only [List.map_append]
    exact ((((((keys_optional ..).append (List.Sublist.refl ["contact_points"])).append
      (keys_optional ..)).append (keys_optional ..)).append (keys_optional ..)).append
      (keys_optional ..)).append (keys_optional ..)
  · have seconds (x : Option Nat) :
        (do let n ← x; pure (n : Int) : Option Int).map Json.int = x.map fun n : Nat => .int n := by
      cases x <;> rfl
    simp only [settings, List.mem_append, seconds]
    tauto

theorem ofJsonText_of_read {text : String} (h : read text = .ok c) :
    ofJsonText text = c.validated := by
  rw [ofJsonText, h]

theorem isUsable_of_ofJsonText {text : String} (h : ofJsonText text = .ok c) : c.IsUsable := by
  unfold ofJsonText at h
  split at h
  · cases h
  · obtain ⟨usable, rfl⟩ := validated_eq_ok_iff.1 h
    exact usable

theorem isUsable_of_ofYamlText {text : String} (h : ofYamlText text = .ok c) : c.IsUsable := by
  unfold ofYamlText at h
  split at h
  · cases h
  · obtain ⟨usable, rfl⟩ := validated_eq_ok_iff.1 h
    exact usable

/-- The text of a configuration, with its settings in the order of the type or of their keys, is
read as this configuration if it is valid, and refused with the error of its validation otherwise.
Whatever is read from any text is usable, and there is a connector for it. -/
theorem only_valid_read :
    (∀ c : Config, c.InRange → ∀ text ∈ [c.toJsonText, c.toJson.text],
      (∀ d, c.validated = .ok d → ofJsonText text = .ok c) ∧
      ∀ e, c.validated = .error e → ofJsonText text = .error e) ∧
    ∀ text c, ofJsonText text = .ok c ∨ ofYamlText text = .ok c →
      c.IsUsable ∧ Connector.ofConfig c = .ok { config := c } := by
  refine ⟨fun c inRange text written => ?_, fun text c given => ?_⟩
  · have back : ofJsonText text = c.validated := by
      refine ofJsonText_of_read ?_
      simp only [List.mem_cons, List.not_mem_nil, or_false] at written
      rcases written with rfl | rfl
      · exact read_toJsonText inRange
      · exact read_text_toJson inRange
    rw [back]
    refine ⟨fun d valid => ?_, fun e invalid => invalid⟩
    obtain ⟨usable, -⟩ := validated_eq_ok_iff.1 valid
    exact validated_eq_ok_iff.2 ⟨usable, rfl⟩
  · have usable : c.IsUsable := given.elim isUsable_of_ofJsonText isUsable_of_ofYamlText
    refine ⟨usable, ?_⟩
    rw [Connector.ofConfig, validated_eq_ok_iff.2 ⟨usable, rfl⟩]
    rfl

/-- A keyspace that is escaped in the text; with a user name alone the text is refused. -/
theorem escaped_keyspace_read :
    let c : Config :=
      { contactPoints := ["db:9042"], keyspace := some "a\"\\\x01ü", requestTimeoutSecs := some 5 }
    let d : Config := { c with username := some "user" }
    c.InRange ∧ c.validated = .ok c ∧ ofJsonText c.toJsonText = .ok c ∧ c.IsUsable ∧
      d.InRange ∧ d.validated = .error (.configuration .unpairedCredentials) ∧
      ofJsonText d.toJson.text = .error (.configuration .unpairedCredentials) := by
  intro c d
  obtain ⟨back, usable⟩ := only_valid_read
  have inRange : c.InRange := ⟨by simp [c], by simp [c]⟩
  have inRange' : d.InRange := ⟨by simp [c, d], by simp [c, d]⟩
  have valid : c.validated = .ok c := rfl
  have invalid : d.validated = .error (.configuration .unpairedCredentials) := rfl
  have read : ofJsonText c.toJsonText = .ok c :=
    (back c inRange c.toJsonText List.mem_cons_self).1 c valid
  exact ⟨inRange, valid, read, (usable _ c (.inl read)).1, inRange', invalid,
    (back d inRange' d.toJson.text (by simp)).2 _ invalid⟩

end Config

end CqlClient
