import CqlClient.Proofs.Format.Quoting
import CqlClient.Proofs.Schema.Fault

/-!
# Names that are admitted

The neutral grammar writes a name part by part and asks for an identifier in each of them. CQL
writes the last part, and of the others it asks only that they are words. So CQL admits every name
that the neutral grammar admits and, by `escapeName_admits`, any other that is made of words of
which the last is an identifier.
-/

namespace CqlClient

namespace Name

/-- What is read in one pass is what the parts are on their own. -/
theorem isDotted_split {cs part : List Char} {parts : List (List Char)}
    (split : splitDots cs = part :: parts) :
    isDotted true cs = (isIdentifier part && parts.all isIdentifier) ∧
      isDotted false cs = (part.all isSubsequent && parts.all isIdentifier) := by
  induction cs generalizing part parts with
  | nil =>
    obtain ⟨rfl, rfl⟩ := List.cons.inj split
    exact ⟨rfl, rfl⟩
  | cons c cs ih =>
    obtain ⟨first, later, rest⟩ := List.exists_cons_of_ne_nil (splitDots_ne_nil cs)
    obtain ⟨fresh, begun⟩ := ih rest
    rw [splitDots, rest] at split
    by_cases dot : c = '.'
    · rw [if_pos dot] at split
      obtain ⟨rfl, rfl⟩ := List.cons.inj split
      subst dot
      refine ⟨rfl, ?_⟩
      rw [isDotted, if_pos rfl, fresh]
      rfl
    · rw [if_neg dot] at split
      obtain ⟨rfl, rfl⟩ := List.cons.inj split
      rw [isDotted, isDotted, if_neg dot, begun, isIdentifier, List.all_cons, Bool.and_assoc,
        Bool.and_assoc]
      exact ⟨rfl, rfl⟩

variable {name : String}

theorem isDotted_iff_segments :
    isDotted true name.toList ↔ ∀ part ∈ segments name, isIdentifier part.toList := by
  obtain ⟨first, later, split⟩ := List.exists_cons_of_ne_nil (splitDots_ne_nil name.toList)
  rw [(isDotted_split split).1, segments, split]
  simp

theorem isIdentifier_member (h : isDotted true name.toList) : isIdentifier (member name).toList :=
  isDotted_iff_segments.1 h _ (member_mem_segments name)

theorem isDotted_of_isIdentifier (h : isIdentifier name.toList) : isDotted true name.toList := by
  rwa [isDotted_eq_isIdentifier (not_mem_of_isIdentifier h (by decide))]

theorem isIdentifier_chars {cs : List Char} (h : isIdentifier cs) {c : Char} (member : c ∈ cs) :
    c.toNat < 128 ∧ c ≠ '.' := by
  have among := isSubsequent_of_isIdentifier h member
  have bound := (toNat_of_isSubsequent among).2
  refine ⟨by omega, ?_⟩
  rintro rfl
  exact absurd among (by decide)

end Name

namespace Formatter

variable {f g : Formatter} {name t : String}

theorem quoteName_congr (hf : f.Standard) (hg : g.Standard) (name : String) :
    f.quoteName name = g.quoteName name := by
  have part : f.quoteIdentifier = g.quoteIdentifier := by
    funext part
    rw [quoteIdentifier, quoteIdentifier, hf.nameFormat_eq, hg.nameFormat_eq]
  rw [quoteName, quoteName, hf.validator_eq, hg.validator_eq, part]

theorem escapeName_eq_quoteName (hf : f.IsCql) (hg : g.Standard) (name : String) :
    f.escapeName name = g.quoteName (Name.reduced name) := by
  have written : f.writtenName name = Name.reduced name := by
    rw [writtenName, hf.grammar_eq]
    rfl
  rw [escapeName_eq, written, quoteName_congr hf.toStandard hg]

theorem exists_quoteName_iff (hf : f.Standard) :
    (∃ t, f.quoteName name = .ok t) ↔ name = "*" ∨ Name.isDotted true name.toList := by
  constructor
  · rintro ⟨t, h⟩
    exact accepted_of_quoteName hf h
  · intro h
    rw [quoteName, hf.validator_eq]
    by_cases star : name = "*"
    · exact ⟨name, if_pos star⟩
    · rw [if_neg star]
      exact ⟨_, if_pos (h.resolve_left star)⟩

theorem exists_quoteName_member (hf : f.Standard) (h : ∃ t, f.quoteName name = .ok t) :
    ∃ t, f.quoteName (Name.member name) = .ok t := by
  rw [exists_quoteName_iff hf] at h ⊢
  rcases h with rfl | dotted
  · exact .inl rfl
  · exact .inr (Name.isDotted_of_isIdentifier (Name.isIdentifier_member dotted))

theorem quoteName_member_of_escapeName (hf : f.IsCql) (hg : g.Standard)
    (h : f.escapeName name = .ok t) : g.quoteName (Name.member name) = .ok t := by
  obtain ⟨writable, -⟩ := (escapeName_eq_ok_iff hf).1 h
  rw [← writable.reduced_eq_member, ← escapeName_eq_quoteName hf hg, h]

/-- The text of a name in CQL: the star, or an ASCII identifier between double quotes. -/
inductive IsNameText : String → Prop where
  | star : IsNameText "*"
  | quoted {part : String} (identifier : Name.isIdentifier part.toList)
      (plain : ∀ c ∈ part.toList, c.toNat < 128 ∧ c ≠ '.') : IsNameText ("\"" ++ part ++ "\"")

theorem isNameText_of_escapeName (hf : f.IsCql) (h : f.escapeName name = .ok t) : IsNameText t := by
  obtain ⟨writable, rfl⟩ := (escapeName_eq_ok_iff hf).1 h
  rw [Name.identifier]
  split
  · exact .star
  · rename_i star
    have identifier := writable.resolve_left star
    exact .quoted identifier fun c => Name.isIdentifier_chars identifier

/-- A name is admitted in CQL if the neutral grammar admits it, or if it is qualified and the
neutral grammar admits its last part. The text is that of the last part, and any other name is a
configuration error. -/
theorem escapeName_admits (hf : f.IsCql) (hg : g.Standard) (name : String) :
    ((∃ t, f.escapeName name = .ok t) ↔ (∃ t, g.quoteName name = .ok t) ∨
      Name.isQualified name ∧ ∃ t, g.quoteName (Name.member name) = .ok t) ∧
    (∀ t, f.escapeName name = .ok t → g.quoteName (Name.member name) = .ok t ∧ IsNameText t) ∧
    ∀ e, f.escapeName name = .error e → e.kind = .configuration := by
  refine ⟨?_, fun t written => ?_, fun e => kind_of_escapeName⟩
  · rw [escapeName_eq_quoteName hf hg, Name.reduced]
    by_cases qualified : Name.isQualified name
    · rw [if_pos qualified]
      constructor
      · exact fun last => .inr ⟨qualified, last⟩
      · rintro (whole | ⟨-, last⟩)
        · exact exists_quoteName_member hg whole
        · exact last
    · simp [qualified]
  · exact ⟨quoteName_member_of_escapeName hf hg written, isNameText_of_escapeName hf written⟩

/-- A qualifier that is a word and no identifier is dropped without a complaint. -/
theorem word_qualifier_admitted :
    (∃ t, cql.escapeName "größe.id" = .ok t) ∧ ∀ t, cql.escapeName "größe.id" = .ok t →
      neutral.quoteName "id" = .ok t ∧ IsNameText t := by
  obtain ⟨admitted, written, -⟩ := escapeName_admits cql_isCql neutral_standard "größe.id"
  have qualified : Name.isQualified "größe.id" := by decide
  have last : neutral.quoteName (Name.member "größe.id") = .ok "\"id\"" := rfl
  exact ⟨admitted.2 (.inr ⟨qualified, _, last⟩), written⟩

theorem digit_qualifier_not_neutral :
    ¬ ((∃ t, cql.escapeName "1.a" = .ok t) ↔ ∃ t, neutral.quoteName "1.a" = .ok t) := by
  intro same
  have dropped : cql.escapeName "1.a" = .ok "\"a\"" := rfl
  obtain ⟨t, written⟩ := same.1 ⟨_, dropped⟩
  cases (accepted_of_quoteName neutral_standard written).resolve_left (by decide)

end Formatter

end CqlClient
