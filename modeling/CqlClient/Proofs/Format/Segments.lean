import CqlClient.Proofs.Format.Admission

/-!
# Qualified names part by part

The standard validator reads a qualified name in one pass, the formatter quotes it part by part and
asks nothing of the parts. By `quoteName_segmentwise` that is safe: what is read in one pass are
identifiers between dots, and a dot between two names is a dot between their texts, in any form of
names.
-/

namespace CqlClient

theorem splitDots_eq_splitOn (cs : List Char) : splitDots cs = cs.splitOn '.' := by
  induction cs with
  | nil => rfl
  | cons c cs ih =>
    rw [splitDots, List.splitOn_cons_eq_if_modifyHead, ← ih]
    by_cases dot : c = '.'
    · rw [if_pos dot, if_pos (beq_iff_eq.2 dot)]
    · rw [if_neg dot, if_neg (mt beq_iff_eq.1 dot)]
      obtain ⟨part, parts, split⟩ := List.exists_cons_of_ne_nil (Name.splitDots_ne_nil cs)
      rw [split]
      rfl

namespace Name

theorem segments_append_dot (a b : String) : segments (a ++ "." ++ b) = segments a ++ segments b := by
  have joined : (a ++ "." ++ b).toList = a.toList ++ '.' :: b.toList := by simp
  simp only [segments, splitDots_eq_splitOn, joined, List.splitOn_append_cons_self, List.map_append]

theorem segments_ne_nil (name : String) : segments name ≠ [] := by
  simpa [segments] using splitDots_ne_nil name.toList

theorem accepts_iff_segments {name : String} :
    NameValidator.standard.accepts name true ↔
      ∀ part ∈ segments name, NameValidator.standard.accepts part false :=
  isDotted_iff_segments

end Name

namespace Formatter

variable {f : Formatter} {a b : String}

/-- The text of an accepted name other than the star. -/
def quoteSegments (f : Formatter) (name : String) : String :=
  ".".intercalate ((Name.segments name).map f.quoteIdentifier)

theorem quoteSegments_append_dot (f : Formatter) (a b : String) :
    f.quoteSegments (a ++ "." ++ b) = f.quoteSegments a ++ "." ++ f.quoteSegments b := by
  have parts (name : String) : (Name.segments name).map f.quoteIdentifier ≠ [] :=
    mt List.map_eq_nil_iff.1 (Name.segments_ne_nil name)
  rw [quoteSegments, Name.segments_append_dot, List.map_append,
    String.intercalate_append_of_ne_nil (parts a) (parts b)]
  rfl

theorem quoteName_eq_ok_iff {name t : String} (other : name ≠ "*") :
    f.quoteName name = .ok t ↔ f.validator.accepts name true ∧ f.quoteSegments name = t := by
  rw [quoteName, if_neg other]
  by_cases accepted : f.validator.accepts name true
  · rw [if_pos accepted, Except.ok.injEq]
    exact (and_iff_right accepted).symm
  · simp [accepted]

/-- The standard validator accepts a qualified name if it accepts every part of it as a simple one.
Two names with a dot between them can be quoted just if both can, and their texts are quoted with a
dot between them, whatever the form of names. -/
theorem quoteName_segmentwise (hf : f.validator = .standard) :
    (∀ name : String, NameValidator.standard.accepts name true ↔
      ∀ part ∈ name.toList.splitOn '.', NameValidator.standard.accepts (String.ofList part) false) ∧
    ∀ a b, a ≠ "*" → b ≠ "*" →
      ((∃ t, f.quoteName (a ++ "." ++ b) = .ok t) ↔
        (∃ s, f.quoteName a = .ok s) ∧ ∃ t, f.quoteName b = .ok t) ∧
      ∀ s t, f.quoteName a = .ok s → f.quoteName b = .ok t →
        f.quoteName (a ++ "." ++ b) = .ok (s ++ "." ++ t) := by
  refine ⟨fun name => ?_, fun a b otherA otherB => ?_⟩
  · rw [Name.accepts_iff_segments, Name.segments, splitDots_eq_splitOn, List.forall_mem_map]
  have other : a ++ "." ++ b ≠ "*" := by
    intro star
    have dot : '.' ∈ (a ++ "." ++ b).toList := by simp
    rw [star] at dot
    exact absurd dot (by decide)
  have accepted : f.validator.accepts (a ++ "." ++ b) true ↔
      f.validator.accepts a true ∧ f.validator.accepts b true := by
    rw [hf, Name.accepts_iff_segments, Name.accepts_iff_segments, Name.accepts_iff_segments,
      Name.segments_append_dot, List.forall_mem_append]
  simp only [quoteName_eq_ok_iff otherA, quoteName_eq_ok_iff otherB, quoteName_eq_ok_iff other,
    exists_eq_right', accepted, quoteSegments_append_dot]
  refine ⟨?_, ?_⟩
  · simp
  · rintro s t ⟨acceptedA, rfl⟩ ⟨acceptedB, rfl⟩
    exact ⟨⟨acceptedA, acceptedB⟩, rfl⟩

/-- A form of names with brackets. -/
theorem bracketed_name_segmentwise :
    let f : Formatter := { grammar := .neutral, nameFormat := "[$1]" }
    f.validator = .standard ∧ "dbo.Products" ≠ "*" ∧ "id" ≠ "*" ∧
      f.quoteName "dbo.Products" = .ok "[dbo].[Products]" ∧ f.quoteName "id" = .ok "[id]" ∧
      f.quoteName ("dbo.Products" ++ "." ++ "id") = .ok ("[dbo].[Products]" ++ "." ++ "[id]") := by
  intro f
  have qualifier : f.quoteName "dbo.Products" = .ok "[dbo].[Products]" :=
    (quoteName_eq_ok_iff (by decide)).2 ⟨by decide, by decide⟩
  have last : f.quoteName "id" = .ok "[id]" :=
    (quoteName_eq_ok_iff (by decide)).2 ⟨by decide, by decide⟩
  obtain ⟨-, joined⟩ := quoteName_segmentwise (f := f) rfl
  obtain ⟨-, text⟩ := joined "dbo.Products" "id" (by decide) (by decide)
  exact ⟨rfl, by decide, by decide, qualifier, last, text _ _ qualifier last⟩

end Formatter

end CqlClient
