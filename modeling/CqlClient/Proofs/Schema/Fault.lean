import CqlClient.Connector.Table
import CqlClient.Proofs.Format.Fault

/-!
# Why a schema statement is not rendered

A keyspace or a table is not defined because of a name, a type or a list of fields. All of these are
configuration errors.
-/

namespace CqlClient

variable {e : CqlError}

theorem Formatter.kind_of_escapeName {f : Formatter} {name : String}
    (h : f.escapeName name = .error e) : e.kind = .configuration := by
  rw [f.escapeName_eq, quoteName] at h
  split at h
  · cases h
  · split at h
    · cases h
    · cases h
      rfl

theorem Field.kind_of_columnType {f : Field} (h : f.columnType = .error e) :
    e.kind = .configuration := by
  rw [columnType] at h
  split at h
  · cases h
    rfl
  · cases h

namespace Table

variable {t : Table}

theorem kind_of_requiredKeyspace (h : t.requiredKeyspace = .error e) : e.kind = .configuration := by
  rw [requiredKeyspace] at h
  split at h
  · cases h
  · cases h
    rfl

theorem kind_of_qualifiedName (h : t.qualifiedName = .error e) : e.kind = .configuration := by
  rcases bind_eq_error.1 h with keyspace | ⟨k, -, h⟩
  · exact kind_of_requiredKeyspace keyspace
  · rcases bind_eq_error.1 h with keyspace | ⟨k', -, h⟩
    · exact Formatter.kind_of_escapeName keyspace
    · rcases bind_eq_error.1 h with name | ⟨name, -, h⟩
      · exact Formatter.kind_of_escapeName name
      · cases h

theorem kind_of_columnDefinition {f : Field} (h : t.columnDefinition f = .error e) :
    e.kind = .configuration := by
  rcases bind_eq_error.1 h with name | ⟨name, -, h⟩
  · exact Formatter.kind_of_escapeName name
  · rcases bind_eq_error.1 h with type | ⟨type, -, h⟩
    · exact Field.kind_of_columnType type
    · cases h

theorem kind_of_creation {fields : List Field} (h : t.creation fields = .error e) :
    e.kind = .configuration := by
  rw [creation] at h
  split at h
  · cases h
    rfl
  · rcases bind_eq_error.1 h with definitions | ⟨definitions, -, h⟩
    · obtain ⟨f, -, failed⟩ := exists_of_mapM_eq_error definitions
      exact kind_of_columnDefinition failed
    · rcases bind_eq_error.1 h with key | ⟨key, -, h⟩
      · obtain ⟨f, -, failed⟩ := exists_of_mapM_eq_error key
        exact Formatter.kind_of_escapeName failed
      · rcases bind_eq_error.1 h with name | ⟨name, -, h⟩
        · exact kind_of_qualifiedName name
        · cases h

theorem kind_of_addition {qualifiedName : String} {f : Field}
    (h : t.addition qualifiedName f = .error e) : e.kind = .configuration := by
  rw [addition] at h
  split at h
  · cases h
    rfl
  · rcases bind_eq_error.1 h with definition | ⟨definition, -, h⟩
    · exact kind_of_columnDefinition definition
    · cases h

theorem kind_of_additions {qualifiedName : String} {present : List Column} {fields : List Field}
    (h : t.additions qualifiedName present fields = .error e) : e.kind = .configuration := by
  obtain ⟨f, -, failed⟩ := exists_of_mapM_eq_error h
  exact kind_of_addition failed

theorem kind_of_readColumns {rows : List Row} (h : readColumns rows = .error e) :
    e.kind = .json := by
  rw [readColumns] at h
  split at h
  · cases h
  · cases h
    rfl

theorem requiredKeyspace_of_qualifiedName {qualifiedName : String}
    (h : t.qualifiedName = .ok qualifiedName) : ∃ keyspace, t.requiredKeyspace = .ok keyspace := by
  obtain ⟨keyspace, found, -⟩ := bind_eq_ok.1 h
  exact ⟨keyspace, found⟩

end Table

end CqlClient
