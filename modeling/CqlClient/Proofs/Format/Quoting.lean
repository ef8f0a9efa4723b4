import CqlClient.Proofs.Format.Reduction

/-!
# Quoted names

In a CQL statement a name is the star or one identifier between double quotes. By
`Formatter.escapeName_eq_ok_iff` a name is written as its last part, and written at all if that is
the star or an identifier.
-/

namespace CqlClient

/-- A name as it stands in a statement. -/
inductive Identifier where
  | star
  | quoted (name : String)
  deriving DecidableEq

def Identifier.text : Identifier → String
  | .star => "*"
  | .quoted name => "\"" ++ name ++ "\""

/-- The name without its quotes. -/
def Identifier.name : Identifier → String
  | .star => "*"
  | .quoted name => name

namespace Name

def identifier (name : String) : Identifier :=
  if reduced name = "*" then .star else .quoted (reduced name)

def IsWritable (name : String) : Prop :=
  reduced name = "*" ∨ isIdentifier (reduced name).toList

variable {name : String}

theorem isDotted_eq_isIdentifier {cs : List Char} (h : '.' ∉ cs) :
    isDotted true cs = isIdentifier cs := by
  have later {cs : List Char} (h : '.' ∉ cs) : isDotted false cs = cs.all isSubsequent := by
    induction cs with
    | nil => rfl
    | cons c cs ih =>
      rw [List.mem_cons, not_or] at h
      rw [isDotted, if_neg (Ne.symm h.1), ih h.2, List.all_cons]
  cases cs with
  | nil => rfl
  | cons c cs =>
    rw [List.mem_cons, not_or] at h
    rw [isDotted, isIdentifier, later h.2]

theorem isSubsequent_of_isIdentifier {cs : List Char} (h : isIdentifier cs) {c : Char}
    (member : c ∈ cs) : isSubsequent c := by
  cases cs with
  | nil => cases member
  | cons d cs =>
    obtain ⟨initial, rest⟩ := Bool.and_eq_true_iff.1 h
    rcases List.mem_cons.1 member with rfl | member
    · exact isSubsequent_of_isInitial initial
    · exact List.all_eq_true.1 rest c member

theorem not_mem_of_isIdentifier {cs : List Char} (h : isIdentifier cs) {c : Char}
    (other : isSubsequent c = false) : c ∉ cs :=
  fun member => by simp [isSubsequent_of_isIdentifier h member] at other

/-- Before it is quoted, a name has lost its dots. -/
theorem isDotted_reduced_iff :
    isDotted true (reduced name).toList ↔ isIdentifier (reduced name).toList := by
  by_cases dot : '.' ∈ (reduced name).toList
  · refine ⟨fun dotted => ?_, fun identifier => ?_⟩
    · have qualified := isQualified_of_isDotted dotted dot
      rw [isQualified_reduced] at qualified
      cases qualified
    · exact absurd dot (not_mem_of_isIdentifier identifier (by decide))
  · rw [isDotted_eq_isIdentifier dot]

/-- A name without qualification, other than the star. -/
def IsSimple (name : String) : Prop := name ≠ "*" ∧ isQualified name = false

instance (name : String) : Decidable (IsSimple name) := inferInstanceAs (Decidable (_ ∧ _))

theorem reduced_of_isSimple (h : IsSimple name) : reduced name = name := by
  rw [reduced, h.2]
  rfl

theorem isSimple_of_isIdentifier (h : isIdentifier name.toList) : IsSimple name := by
  constructor
  · rintro rfl
    exact absurd h (by decide)
  · have undotted := not_mem_of_isIdentifier h (c := '.') (by decide)
    simp [isQualified, splitDots_of_not_mem undotted]

theorem isWritable_of_isIdentifier (h : isIdentifier name.toList) : IsWritable name := by
  rw [IsWritable, reduced_of_isSimple (isSimple_of_isIdentifier h)]
  exact .inr h

theorem identifier_eq_quoted_iff : identifier name = .quoted name ↔ IsSimple name := by
  constructor
  · intro same
    rw [identifier] at same
    split at same
    · cases same
    · rename_i star
      have same := Identifier.quoted.inj same
      rw [same] at star
      refine ⟨star, ?_⟩
      rw [← same]
      exact isQualified_reduced name
  · intro h
    rw [identifier, reduced_of_isSimple h, if_neg h.1]

theorem identifier_of_isIdentifier (h : isIdentifier name.toList) : identifier name = .quoted name :=
  identifier_eq_quoted_iff.2 (isSimple_of_isIdentifier h)

theorem member_ne_star (qualified : isQualified name) : member name ≠ "*" := by
  obtain ⟨part, split, last⟩ := List.mem_map.1 (member_mem_segments name)
  simp only [isQualified, Bool.and_eq_true, List.all_eq_true] at qualified
  obtain ⟨-, word⟩ := qualified.2 part split
  intro star
  rw [star, ← String.toList_inj, String.toList_ofList] at last
  subst last
  exact absurd (word '*' (by decide)) (by decide)

theorem reduced_eq_star_iff : reduced name = "*" ↔ name = "*" := by
  constructor
  · intro star
    rw [reduced] at star
    split at star
    · rename_i qualified
      exact absurd star (member_ne_star qualified)
    · exact star
  · rintro rfl
    rfl

namespace IsWritable

theorem reduced_eq_member (h : IsWritable name) : reduced name = member name := by
  by_cases qualified : isQualified name
  · rw [reduced, if_pos qualified]
  · have same : reduced name = name := by rw [reduced, if_neg qualified]
    rw [IsWritable, same] at h
    rw [same, member_of_not_mem]
    rcases h with rfl | identifier
    · decide
    · exact not_mem_of_isIdentifier identifier (by decide)

theorem name_identifier (h : IsWritable name) : (identifier name).name = member name := by
  rw [← h.reduced_eq_member, identifier]
  split
  · rename_i star
    exact star.symm
  · rfl

theorem identifier_eq (h : IsWritable name) (other : name ≠ "*") :
    identifier name = .quoted (member name) := by
  rw [identifier, if_neg (mt reduced_eq_star_iff.1 other), h.reduced_eq_member]

end IsWritable

end Name

namespace Formatter

/-- The default form of names, the default validator, and the grammar of CQL. -/
structure IsCql (f : Formatter) : Prop extends Standard f where
  grammar_eq : f.grammar = .cql

theorem cql_isCql : cql.IsCql := ⟨cql_standard, rfl⟩

variable {f : Formatter} {name t : String}

theorem quoteIdentifier_eq (quotes : f.nameFormat = "\"$1\"") (part : String) :
    f.quoteIdentifier part = "\"" ++ part ++ "\"" := by
  rw [← String.toList_inj]
  simp [quoteIdentifier, quotes, fillIn]

theorem segments_of_isIdentifier (h : Name.isIdentifier name.toList) : Name.segments name = [name] := by
  have undotted := Name.not_mem_of_isIdentifier h (c := '.') (by decide)
  simp [Name.segments, Name.splitDots_of_not_mem undotted]

theorem escapeName_eq_ok_iff (hf : f.IsCql) :
    f.escapeName name = .ok t ↔ Name.IsWritable name ∧ t = (Name.identifier name).text := by
  have written : f.writtenName name = Name.reduced name := by
    rw [writtenName, hf.grammar_eq]
    rfl
  rw [escapeName_eq, written, quoteName, hf.validator_eq, Name.IsWritable, Name.identifier]
  by_cases star : Name.reduced name = "*"
  · rw [if_pos star, if_pos star, star, Except.ok.injEq]
    exact ⟨fun same => ⟨.inl rfl, same.symm⟩, fun h => h.2.symm⟩
  have accepts (name : String) :
      NameValidator.standard.accepts name true = Name.isDotted true name.toList := rfl
  rw [if_neg star, if_neg star, accepts]
  by_cases identifier : Name.isIdentifier (Name.reduced name).toList
  · rw [if_pos (Name.isDotted_reduced_iff.2 identifier), segments_of_isIdentifier identifier,
      List.map_singleton, String.intercalate_singleton, quoteIdentifier_eq hf.nameFormat_eq,
      Except.ok.injEq]
    exact ⟨fun same => ⟨.inr identifier, same.symm⟩, fun h => h.2.symm⟩
  · rw [if_neg fun dotted => identifier (Name.isDotted_reduced_iff.1 dotted)]
    simp [star, identifier]

theorem escapeName_rejects_iff (hf : f.IsCql) :
    (∃ e, f.escapeName name = .error e) ↔ ¬ Name.IsWritable name := by
  cases escaped : f.escapeName name with
  | ok text => simpa using ((escapeName_eq_ok_iff hf).1 escaped).1
  | error e =>
    refine ⟨fun _ writable => ?_, fun _ => ⟨e, rfl⟩⟩
    have written := (escapeName_eq_ok_iff hf).2 ⟨writable, rfl⟩
    rw [escaped] at written
    cases written

/-! ## Identifiers under any validator -/

/-- The text is this one, unless the validator refuses one of the names. -/
def Yields {α : Type} (f : Formatter) (names : List String) (r : Except CqlError α) (a : α) : Prop :=
  r = .ok a ∨ (∃ e, r = .error e) ∧ ∃ name ∈ names, f.validator.accepts name true = false

theorem escapeName_yields (quotes : f.nameFormat = "\"$1\"") {names : List String}
    (h : Name.isIdentifier name.toList) (member : name ∈ names) :
    f.Yields names (f.escapeName name) (Name.identifier name).text := by
  obtain ⟨star, simple⟩ := Name.isSimple_of_isIdentifier h
  have written : f.writtenName name = name := by
    rw [writtenName, simple]
    cases f.grammar <;> rfl
  rw [escapeName_eq, written, quoteName, if_neg star, Name.identifier_of_isIdentifier h]
  by_cases accepted : f.validator.accepts name true
  · left
    rw [if_pos accepted, segments_of_isIdentifier h, List.map_singleton,
      String.intercalate_singleton, quoteIdentifier_eq quotes]
    rfl
  · right
    rw [if_neg accepted]
    exact ⟨⟨_, rfl⟩, name, member, Bool.eq_false_iff.2 accepted⟩

theorem standard_accepts (h : Name.isIdentifier name.toList) :
    NameValidator.standard.accepts name true = true := by
  have undotted := Name.not_mem_of_isIdentifier h (c := '.') (by decide)
  exact (Name.isDotted_eq_isIdentifier undotted).trans h

namespace Yields

variable {α β : Type} {names : List String} {r : Except CqlError α} {a : α}

theorem bind (h : f.Yields names r a) {k : α → Except CqlError β} {b : β}
    (hk : f.Yields names (k a) b) : f.Yields names (r >>= k) b := by
  rcases h with rfl | ⟨⟨e, rfl⟩, refused⟩
  · exact hk
  · exact .inr ⟨⟨e, rfl⟩, refused⟩

theorem mapM {k : α → Except CqlError β} {g : α → β} {xs : List α}
    (each : ∀ x ∈ xs, f.Yields names (k x) (g x)) : f.Yields names (xs.mapM k) (xs.map g) := by
  induction xs with
  | nil => exact .inl rfl
  | cons x xs ih =>
    obtain ⟨first, rest⟩ := List.forall_mem_cons.1 each
    rw [List.mapM_cons, List.map_cons]
    exact first.bind ((ih rest).bind (.inl rfl))

end Yields

end Formatter

end CqlClient
