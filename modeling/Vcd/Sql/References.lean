import Vcd.Sql.Effects

/-!
# References between tables

A reference from a column to a key of another table, and what preserves it. No index of the
engine enforces references; whether they hold depends on what the statements do.
-/

namespace Sql

variable {schema : Schema}

/-- The value stands in the column of some row. -/
def Database.Occurs (db : Database schema) (table : schema.Table) (column : Str)
    (value : Value) : Prop :=
  ∃ row ∈ db.rows table, schema.cell table row column = value

instance (db : Database schema) (table : schema.Table) (column : Str) (value : Value) :
    Decidable (db.Occurs table column value) :=
  inferInstanceAs (Decidable (∃ row ∈ _, _))

/-- A column of a table, and the key of another table it refers to. -/
structure Reference (schema : Schema) where
  table : schema.Table
  column : Str
  target : schema.Table
  key : Str

namespace Reference

variable {ref : Reference schema} {db next : Database schema}

/-- The value a row refers to. -/
def value (ref : Reference schema) (row : Row) : Value :=
  schema.cell ref.table row ref.column

/-- The key refers to some row. -/
def Names (ref : Reference schema) (db : Database schema) (value : Value) : Prop :=
  db.Occurs ref.target ref.key value

/-- Every row refers to a row that is there. -/
def Holds (ref : Reference schema) (db : Database schema) : Prop :=
  ∀ row ∈ db.rows ref.table, ref.Names db (ref.value row)

instance (ref : Reference schema) (db : Database schema) (value : Value) :
    Decidable (ref.Names db value) :=
  inferInstanceAs (Decidable (db.Occurs _ _ _))

instance (ref : Reference schema) (db : Database schema) : Decidable (ref.Holds db) :=
  inferInstanceAs (Decidable (∀ row ∈ db.rows ref.table, _))

theorem Names.of_subset {value : Value} (names : ref.Names db value)
    (kept : db.rows ref.target ⊆ next.rows ref.target) : ref.Names next value := by
  obtain ⟨row, mem, known⟩ := names
  exact ⟨row, kept mem, known⟩

namespace Holds

/-- References hold after a step if new rows refer to something, and what old rows refer to
stays. -/
theorem step (holds : ref.Holds db)
    (fresh : ∀ row ∈ next.rows ref.table, row ∈ db.rows ref.table ∨ ref.Names next (ref.value row))
    (lasting : ∀ row ∈ next.rows ref.table, ref.Names db (ref.value row) →
      ref.Names next (ref.value row)) : ref.Holds next := by
  intro row mem
  rcases fresh row mem with old | names
  · exact lasting row mem (holds row old)
  · exact names

theorem of_subset (holds : ref.Holds db) (fewer : next.rows ref.table ⊆ db.rows ref.table)
    (kept : db.rows ref.target ⊆ next.rows ref.target) : ref.Holds next :=
  holds.step (fun _ mem => .inl (fewer mem)) fun _ _ names => names.of_subset kept

theorem of_rows (holds : ref.Holds db) (same : next.rows ref.table = db.rows ref.table)
    (kept : next.rows ref.target = db.rows ref.target) : ref.Holds next :=
  holds.of_subset (same ▸ List.Subset.refl _) (kept ▸ List.Subset.refl _)

/-- A row that refers to something may be put in. -/
theorem replace (holds : ref.Holds db) (apart : ref.target ≠ ref.table) {row : Row}
    (names : ref.Names db (ref.value row)) : ref.Holds (db.replace ref.table row) := by
  have kept : db.rows ref.target ⊆ (db.replace ref.table row).rows ref.target := by
    rw [db.rows_replace_other apart]
    exact List.Subset.refl _
  refine holds.step (fun other mem => ?_) fun _ _ known => known.of_subset kept
  rw [db.rows_replace_same] at mem
  rcases List.mem_append.mp mem with old | new
  · exact .inl (List.mem_of_mem_filter old)
  · obtain rfl := List.mem_singleton.mp new
    exact .inr (names.of_subset kept)

/-- A key may go if all rows that refer to it go with it. -/
theorem delete_key (holds : ref.Holds db) (value : Value)
    (gone : ∀ row ∈ next.rows ref.table,
      row ∈ db.rows ref.table ∧ (ref.value row).same value = false)
    (kept : ∀ row ∈ db.rows ref.target,
      (schema.cell ref.target row ref.key).same value = false → row ∈ next.rows ref.target) :
    ref.Holds next := by
  intro row mem
  obtain ⟨old, other⟩ := gone row mem
  obtain ⟨target, targetMem, known⟩ := holds row old
  exact ⟨target, kept target targetMem (known ▸ other), known⟩

/-- The rows referred to may be rewritten if they keep their keys. -/
theorem map_target (holds : ref.Holds db) {rewrite : Row → Row}
    (same : next.rows ref.table = db.rows ref.table)
    (rewritten : next.rows ref.target = (db.rows ref.target).map rewrite)
    (keeps : ∀ row ∈ db.rows ref.target, schema.cell ref.target (rewrite row) ref.key =
      schema.cell ref.target row ref.key) : ref.Holds next := by
  intro row mem
  rw [same] at mem
  obtain ⟨target, targetMem, known⟩ := holds row mem
  refine ⟨rewrite target, ?_, (keeps target targetMem).trans known⟩
  rw [rewritten]
  exact List.mem_map_of_mem targetMem

end Holds

end Reference

end Sql
