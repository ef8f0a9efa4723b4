import CqlClient.Proofs.Except
import CqlClient.Proofs.Format.Lexemes
import CqlClient.Proofs.Json.Members

/-!
# The JSON form of a query as a normal form

A query is read from its JSON form as it was: `Expr.ofJson?_toJson` by induction on the expression,
and then every kind of query. A JSON value may say the same in other ways, with records as arrays,
members left out or null, or members that no reader asks for. By `Query.ofJson?_faithful` all of them
have the form of the query as their normal form.
-/

namespace CqlClient

open Members

theorem Json.listOf?_map {α : Type} {read : Json → Option α} {write : α → Json} {xs : List α}
    (back : ∀ x ∈ xs, read (write x) = some x) : listOf? read (.arr (xs.map write)) = some xs := by
  rw [listOf?]
  simpa only [List.map_id] using mapM_map_eq_some (r := id) back

/-! ## Expressions -/

theorem CompareOp.ofJson?_key (op : CompareOp) : ofJson? (.str op.key) = some op := by
  cases op <;> rfl

namespace Expr

theorem listOfJson?_listToJson {es : List Expr} (each : ∀ e ∈ es, ofJson? e.toJson = some e) :
    listOfJson? (listToJson es) = some es := by
  induction es with
  | nil => rw [listToJson, listOfJson?]
  | cons e es ih =>
    obtain ⟨first, rest⟩ := List.forall_mem_cons.1 each
    rw [listToJson, listOfJson?, first, ih rest]

theorem ofJson?_toJson (e : Expr) : ofJson? e.toJson = some e := by
  induction e using Expr.induct with
  | name n =>
    simp [toJson, ofJson?, ofBody?, nameOf?, Name.toJson, Json.record?, Members.required,
      Members.find?, Json.asString?]
  | literal v => cases v <;> simp [toJson, ofJson?, ofBody?]
  | param => simp [toJson, ofJson?]
  | compare op left right ihLeft ihRight =>
    simp [toJson, ofJson?, ofBody?, readMembers, ofMembers?, findReading?, ihLeft, ihRight,
      CompareOp.ofJson?_key]
  | and items ih => simp [toJson, ofJson?, ofBody?, listOfJson?_listToJson ih]
  | or items ih => simp [toJson, ofJson?, ofBody?, listOfJson?_listToJson ih]
  | oneOf subject values ihSubject ih =>
    simp [toJson, ofJson?, ofBody?, readMembers, ofMembers?, findReading?, itemsOf?, ihSubject,
      listOfJson?_listToJson ih]
  | call function args ih =>
    simp [toJson, ofJson?, ofBody?, readMembers, ofMembers?, findReading?, itemsOf?, Json.asString?,
      listOfJson?_listToJson ih]

theorem toJson_ne_null (e : Expr) : e.toJson ≠ .null := by
  cases e <;> simp [toJson]

end Expr

/-! ## Records -/

namespace Members

variable {members : Members}

theorem alias_of_find? {name : Option String} (found : members.find? "$as" = name.map .str) :
    members.optional "$as" Json.asString? = some name :=
  optional_of_find? found fun _ _ => ⟨nofun, rfl⟩

theorem filter_of_find? {filter : Option Expr}
    (found : members.find? "$where" = filter.map Expr.toJson) :
    members.optional "$where" Expr.ofJson? = some filter :=
  optional_of_find? found fun e _ => ⟨e.toJson_ne_null, e.ofJson?_toJson⟩

end Members

theorem Entity.ofJson?_toJson (e : Entity) : ofJson? e.toJson = some e := by
  let members : Members := Json.optional "$as" (e.aliasName.map .str) ++ [("name", .str e.name)]
  have name : members.required "name" Json.asString? = some e.name :=
    required_of_find? (show members.find? "name" = some (.str e.name) by
      simp [members])
  have aliasName : members.optional "$as" Json.asString? = some e.aliasName :=
    alias_of_find? (by simp [members])
  show ofJson? (.obj members) = some e
  simp [ofJson?, Json.record?, name, aliasName]

theorem Members.entity_of_find? {members : Members} {e : Entity}
    (found : members.find? "$ref" = some e.toJson) :
    members.required "$ref" Entity.ofJson? = some e := by
  rw [required_of_find? found, e.ofJson?_toJson]

theorem SelectField.ofJson?_toJson (f : SelectField) : ofJson? f.toJson = some f := by
  let members : Members := Json.optional "$as" (f.aliasName.map .str) ++ [("expr", f.expr.toJson)]
  have expr : members.required "expr" Expr.ofJson? = some f.expr := by
    rw [← f.expr.ofJson?_toJson]
    apply required_of_find?
    simp [members]
  have aliasName : members.optional "$as" Json.asString? = some f.aliasName :=
    alias_of_find? (by simp [members])
  show ofJson? (.obj members) = some f
  simp [ofJson?, Json.record?, expr, aliasName]

theorem OrderKey.ofJson?_toJson (k : OrderKey) : ofJson? k.toJson = some k := by
  simp [toJson, ofJson?, Json.record?, Members.required, Members.defaulted,
    k.expr.ofJson?_toJson, Json.asBool?]

theorem assignmentOfJson?_toJson (a : String × Expr) :
    assignmentOfJson? (assignmentToJson a) = some a := by
  rw [assignmentToJson, assignmentOfJson?, a.2.ofJson?_toJson]
  rfl

/-! ## Queries -/

theorem SelectQuery.ofJson?_toJson {q : SelectQuery} (fits : ∀ n ∈ q.limit, n < 2 ^ 64) :
    ofJson? q.toJson = some q := by
  let members : Members := [("$ref", q.entity.toJson)] ++
    Json.optional "$where" (q.filter.map Expr.toJson) ++
    [("fields", .arr (q.fields.map SelectField.toJson))] ++
    Json.optional "limit" (q.limit.map fun n => .int n) ++
    (if q.orderBy.isEmpty then [] else [("order_by", .arr (q.orderBy.map OrderKey.toJson))])
  have entity : members.required "$ref" Entity.ofJson? = some q.entity :=
    entity_of_find? (by simp [members])
  have fields : members.defaulted "fields" [] (Json.listOf? SelectField.ofJson?) =
      some q.fields := by
    have found : members.find? "fields" = some (.arr (q.fields.map SelectField.toJson)) := by
      simp [members]
    simp only [Members.defaulted, found]
    exact Json.listOf?_map fun f _ => f.ofJson?_toJson
  have filter : members.optional "$where" Expr.ofJson? = some q.filter :=
    filter_of_find? (by cases keys : q.orderBy <;> simp [members, keys])
  have orderBy : members.defaulted "order_by" [] (Json.listOf? OrderKey.ofJson?) =
      some q.orderBy := by
    cases keys : q.orderBy with
    | nil => simp [Members.defaulted, members, keys]
    | cons key rest =>
      have found : members.find? "order_by" = some (.arr ((key :: rest).map OrderKey.toJson)) := by
        simp [members, keys]
      simp only [Members.defaulted, found]
      exact Json.listOf?_map fun k _ => k.ofJson?_toJson
  have limit : members.optional "limit" Json.asNat64? = some q.limit := by
    apply optional_of_find?
    · show members.find? "limit" = q.limit.map fun n => .int n
      cases keys : q.orderBy <;> cases limit : q.limit <;> simp [members, keys, limit]
    · exact fun n present => ⟨nofun, Json.asNat64?_eq_some_iff.2 ⟨rfl, fits n present⟩⟩
  show ofJson? (.obj members) = some q
  simp [ofJson?, Json.record?, entity, fields, filter, orderBy, limit]

theorem InsertQuery.ofJson?_toJson (q : InsertQuery) : ofJson? q.toJson = some q := by
  have values : Json.listOf? assignmentOfJson? (.arr (q.values.map assignmentToJson)) =
      some q.values := Json.listOf?_map fun a _ => assignmentOfJson?_toJson a
  simp [toJson, ofJson?, Json.record?, Members.required, q.entity.ofJson?_toJson,
    values]

theorem UpdateQuery.ofJson?_toJson (q : UpdateQuery) : ofJson? q.toJson = some q := by
  let members : Members := [("$ref", q.entity.toJson)] ++
    Json.optional "$where" (q.filter.map Expr.toJson) ++
    [("set", .arr (q.assignments.map assignmentToJson))]
  have entity : members.required "$ref" Entity.ofJson? = some q.entity :=
    entity_of_find? (by simp [members])
  have assignments : members.required "set" (Json.listOf? assignmentOfJson?) =
      some q.assignments := by
    rw [← Json.listOf?_map fun a (_ : a ∈ q.assignments) => assignmentOfJson?_toJson a]
    apply required_of_find?
    simp [members]
  have filter : members.optional "$where" Expr.ofJson? = some q.filter :=
    filter_of_find? (by simp [members])
  show ofJson? (.obj members) = some q
  simp [ofJson?, Json.record?, entity, assignments, filter]

theorem DeleteQuery.ofJson?_toJson (q : DeleteQuery) : ofJson? q.toJson = some q := by
  let members : Members := [("$ref", q.entity.toJson)] ++
    Json.optional "$where" (q.filter.map Expr.toJson)
  have entity : members.required "$ref" Entity.ofJson? = some q.entity :=
    entity_of_find? (by simp [members])
  have filter : members.optional "$where" Expr.ofJson? = some q.filter :=
    filter_of_find? (by simp [members])
  show ofJson? (.obj members) = some q
  simp [ofJson?, Json.record?, entity, filter]

theorem SelectQuery.limit_of_ofJson? {v : Json} {q : SelectQuery} (h : ofJson? v = some q) :
    ∀ n ∈ q.limit, n < 2 ^ 64 := by
  simp only [ofJson?, Option.bind_eq_bind, Option.bind_eq_some_iff] at h
  obtain ⟨members, -, entity, -, fields, -, filter, -, orderBy, -, limit, read, same⟩ := h
  obtain rfl := Option.some.inj same
  intro n present
  obtain ⟨v, number⟩ := exists_of_optional read present
  exact (Json.asNat64?_eq_some_iff.1 number).2

namespace Query

/-- The limit of a query, if it has one, is an integer of 64 bits. -/
def LimitFits : Query → Prop
  | .select q => ∀ n ∈ q.limit, n < 2 ^ 64
  | _ => True

theorem ofJson?_toJson {q : Query} (fits : q.LimitFits) : ofJson? q.toJson = some q := by
  cases q with
  | select q => rw [toJson, ofJson?, SelectQuery.ofJson?_toJson fits, Option.map_some]
  | insert q => rw [toJson, ofJson?, q.ofJson?_toJson, Option.map_some]
  | update q => rw [toJson, ofJson?, q.ofJson?_toJson, Option.map_some]
  | delete q => rw [toJson, ofJson?, q.ofJson?_toJson, Option.map_some]

theorem limitFits_of_ofJson? {v : Json} {q : Query} (h : ofJson? v = some q) : q.LimitFits := by
  unfold ofJson? at h
  split at h
  · split at h
    · obtain ⟨q, read, rfl⟩ := Option.map_eq_some_iff.1 h
      exact SelectQuery.limit_of_ofJson? read
    · obtain ⟨q, -, rfl⟩ := Option.map_eq_some_iff.1 h
      trivial
    · obtain ⟨q, -, rfl⟩ := Option.map_eq_some_iff.1 h
      trivial
    · obtain ⟨q, -, rfl⟩ := Option.map_eq_some_iff.1 h
      trivial
    · cases h
  · cases h

/-- A query is read from its JSON form as it was. Whatever else it is read from, its form is read as
the same query, and is the form that it has again. -/
theorem ofJson?_faithful :
    (∀ q : Query, ofJson? q.toJson = some q ↔ q.LimitFits) ∧
    (∀ v q, ofJson? v = some q → ofJson? q.toJson = some q) ∧
    ∀ v w, (ofJson? v).map toJson = some w →
      ofJson? w = ofJson? v ∧ (ofJson? w).map toJson = some w := by
  have again {v : Json} {q : Query} (read : ofJson? v = some q) : ofJson? q.toJson = some q :=
    ofJson?_toJson (limitFits_of_ofJson? read)
  refine ⟨fun q => ⟨limitFits_of_ofJson?, ofJson?_toJson⟩, fun v q => again, ?_⟩
  intro v w written
  obtain ⟨q, read, rfl⟩ := Option.map_eq_some_iff.1 written
  rw [again read, read]
  exact ⟨rfl, rfl⟩

theorem query_in_arrays_faithful :
    let v : Json := .obj [("select", .arr [.arr [.str "t", .null],
      .arr [.obj [("also", .int 1), ("expr", .obj [("literal", .null)])]],
      .obj [("and", .arr [.obj [("param", .null)], .obj [("in", .obj [("expr", .str "param"),
        ("values", .arr [.obj [("literal", .obj [("k", .null)])]])])]])]])]
    let q : Query := .select {
      entity := { name := "t" },
      fields := [{ expr := .literal .null }],
      filter := some (.and [.param, .oneOf .param [.literal (.obj [("k", .null)])]]) }
    ofJson? v = some q ∧ ofJson? q.toJson = some q := by
  intro v q
  have read : ofJson? v = some q := rfl
  exact ⟨read, ofJson?_faithful.2.1 v q read⟩

end Query

end CqlClient
