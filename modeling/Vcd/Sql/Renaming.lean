import Vcd.Sql.Engine

/-!
# Renaming strings

The engine knows the strings of a database by their equality, order and truth only. A
renaming that keeps order and truth therefore takes the rows a query selects to rows it
selects, as long as the strings of the query itself stay. With a renaming that has no string named `text`,
no query can insist on `text` unless `text` is one of its own strings.
-/

namespace Sql

/-- A renaming of strings that keeps their order and their truth. -/
structure Renaming where
  rename : Str → Str
  lt_iff : ∀ left right, rename left < rename right ↔ left < right
  truth : ∀ text, (Value.str (rename text)).truth = (Value.str text).truth

namespace Renaming

theorem eq_iff (order : Renaming) (left right : Str) :
    order.rename left = order.rename right ↔ left = right := by
  constructor
  · intro equal
    have irreflexive := List.lt_irrefl (order.rename right)
    apply List.le_antisymm
    · apply List.not_lt.mp
      intro less
      exact irreflexive (equal ▸ (order.lt_iff right left).mpr less)
    · apply List.not_lt.mp
      intro less
      exact irreflexive (equal ▸ (order.lt_iff left right).mpr less)
  · exact congrArg _

end Renaming

/-! ## Dodging a string -/

/-- Insert a character after `text` into the strings that begin with it. -/
def dodge : (text : Str) → Str → Str
  | [], rest => '.' :: rest
  | _ :: _, [] => []
  | char :: text, head :: rest => if char = head then head :: dodge text rest else head :: rest

theorem dodge_lt_iff (text left right : Str) :
    dodge text left < dodge text right ↔ left < right := by
  induction text generalizing left right with
  | nil => simp [dodge]
  | cons char text ih =>
      cases left with
      | nil => cases right with
        | nil => simp [dodge]
        | cons head rest => simp only [dodge]; split <;> simp
      | cons leftHead leftRest =>
          cases right with
          | nil => simp [dodge]
          | cons head rest =>
              simp only [dodge]
              split <;> split <;> grind [List.cons_lt_cons_iff]

theorem dodge_ne (text string : Str) : dodge text string ≠ text := by
  induction text generalizing string with
  | nil => simp [dodge]
  | cons char text ih =>
      cases string with
      | nil => simp [dodge]
      | cons head rest =>
          simp only [dodge]
          split
          · simp [ih]
          next ne => exact fun equal => ne (List.cons.inj equal).1.symm

theorem dodge_eq_self {text string : Str} (apart : ¬ text <+: string) :
    dodge text string = string := by
  induction text generalizing string with
  | nil => simp at apart
  | cons char text ih =>
      cases string with
      | nil => rfl
      | cons head rest =>
          simp only [dodge]
          split
          next equal =>
            subst equal
            rw [ih fun found => apart (List.cons_prefix_cons.mpr ⟨rfl, found⟩)]
          · rfl

theorem dodge_append (text rest : Str) : dodge text (text ++ rest) = text ++ '.' :: rest := by
  induction text with
  | nil => rfl
  | cons char text ih => simp [dodge, ih]

/-- A string with a quote can be dodged, since the number a string begins with ends there. -/
def Renaming.dodge (text : Str) (quoted : '\'' ∈ text) : Renaming where
  rename := Sql.dodge text
  lt_iff := dodge_lt_iff text
  truth := fun string => by
    by_cases begins : text <+: string
    · obtain ⟨rest, rfl⟩ := begins
      obtain ⟨before, after, rfl⟩ := List.append_of_mem quoted
      rw [dodge_append, List.append_assoc, List.append_assoc, List.cons_append,
        List.cons_append, Value.truth_quote, Value.truth_quote]
    · rw [dodge_eq_self begins]

/-! ## Renamed databases -/

namespace Renaming

variable (names : Renaming) {schema : Schema}

def value : Value → Value
  | .str text => .str (names.rename text)
  | other => other

def row (row : Row) : Row :=
  row.map names.value

theorem value_int (number : Int) : names.value (.int number) = .int number := rfl

@[simp] theorem same_value (left right : Value) :
    (names.value left).same (names.value right) = left.same right := by
  cases left <;> cases right <;> simp [value, Value.same, names.eq_iff]

theorem le_value (left right : Value) :
    (names.value left).le (names.value right) = left.le right := by
  cases left <;> cases right <;> simp [value, Value.le, names.lt_iff]

theorem add_value (left right : Value) :
    (names.value left).add (names.value right) = names.value (left.add right) := by
  cases left <;> cases right <;> rfl

theorem truth_value (known : Value) : (names.value known).truth = known.truth := by
  cases known with
  | str text => exact names.truth text
  | _ => rfl

theorem maximum_map (values : List Value) :
    Value.maximum (values.map names.value) = names.value (.maximum values) := by
  have fold (best : Value) :
      (values.map names.value).foldl (fun best value => if best.le value then value else best)
        (names.value best) =
      names.value (values.foldl (fun best value => if best.le value then value else best)
        best) := by
    induction values generalizing best with
    | nil => rfl
    | cons first rest ih =>
        simp only [List.map_cons, List.foldl_cons, names.le_value]
        split
        · exact ih first
        · exact ih best
  exact fold .null

theorem cell_row (table : schema.Table) (known : Row) (column : Str) :
    schema.cell table (names.row known) column = names.value (schema.cell table known column) := by
  simp only [Schema.cell, row, List.getD_eq_getElem?_getD, List.getElem?_map]
  cases known[(schema.columns table).idxOf column]? <;> rfl

theorem conflict_row (table : schema.Table) (left right : Row) :
    schema.conflict table (names.row left) (names.row right) =
      schema.conflict table left right := by
  simp only [Schema.conflict, cell_row, same_value]

def database (db : Database schema) : Database schema where
  rows := fun table => (db.rows table).map names.row
  distinct := fun table => by
    refine List.pairwise_map.mpr ((db.distinct table).imp fun apart => ?_)
    rwa [names.conflict_row]

end Renaming

/-! ## Renamed expressions -/

/-- The strings of an expression. -/
def Expr.strings : Expr → List Str
  | .str text => [text]
  | .int _ | .column _ _ | .maxOf _ _ => []
  | .add left right | .eq left right | .and left right | .or left right =>
      left.strings ++ right.strings

namespace Renaming

variable (names : Renaming) {schema : Schema} (db : Database schema)

theorem maximumOf_database (column table : Str) :
    Expr.maximumOf (names.database db) column table =
      names.value (Expr.maximumOf db column table) := by
  unfold Expr.maximumOf
  split
  next table _ =>
    rw [← names.maximum_map]
    simp only [database, List.map_map, Function.comp_def, cell_row]
  · rfl

/-- An expression whose strings stay has the renamed value on renamed rows, and selects
the same rows. -/
theorem value_holds (env : Env) (expr : Expr)
    (stays : ∀ text ∈ expr.strings, names.rename text = text) :
    expr.value (names.database db) (fun table column => names.value (env table column)) =
        names.value (expr.value db env) ∧
      expr.holds (names.database db) (fun table column => names.value (env table column)) =
        expr.holds db env := by
  induction expr with
  | int number => exact ⟨rfl, rfl⟩
  | str text =>
      have same := stays text (by simp [Expr.strings])
      simp only [Expr.value, Expr.holds, value, same, and_self]
  | column table column => exact ⟨rfl, names.truth_value _⟩
  | maxOf column table =>
      have maximum := names.maximumOf_database db column table
      exact ⟨maximum, (congrArg Value.truth maximum).trans (names.truth_value _)⟩
  | add left right leftIh rightIh =>
      obtain ⟨leftValue, -⟩ := leftIh fun text mem => stays text (by simp [Expr.strings, mem])
      obtain ⟨rightValue, -⟩ :=
        rightIh fun text mem => stays text (by simp [Expr.strings, mem])
      simp only [Expr.value, Expr.holds, leftValue, rightValue, names.add_value,
        names.truth_value, and_self]
  | eq left right leftIh rightIh =>
      obtain ⟨leftValue, -⟩ := leftIh fun text mem => stays text (by simp [Expr.strings, mem])
      obtain ⟨rightValue, -⟩ :=
        rightIh fun text mem => stays text (by simp [Expr.strings, mem])
      simp only [Expr.value, Expr.holds, leftValue, rightValue, names.same_value,
        names.value_int, and_self]
  | and left right leftIh rightIh =>
      obtain ⟨-, leftHolds⟩ := leftIh fun text mem => stays text (by simp [Expr.strings, mem])
      obtain ⟨-, rightHolds⟩ :=
        rightIh fun text mem => stays text (by simp [Expr.strings, mem])
      simp only [Expr.value, Expr.holds, leftHolds, rightHolds, names.value_int, and_self]
  | or left right leftIh rightIh =>
      obtain ⟨-, leftHolds⟩ := leftIh fun text mem => stays text (by simp [Expr.strings, mem])
      obtain ⟨-, rightHolds⟩ :=
        rightIh fun text mem => stays text (by simp [Expr.strings, mem])
      simp only [Expr.value, Expr.holds, leftHolds, rightHolds, names.value_int, and_self]

theorem holds_row (table : schema.Table) (known : Row) (expr : Expr)
    (stays : ∀ text ∈ expr.strings, names.rename text = text) :
    expr.holds (names.database db) (schema.env table (names.row known)) =
      expr.holds db (schema.env table known) := by
  rw [← (names.value_holds db (schema.env table known) expr stays).2]
  congr 1
  funext qualifier column
  exact names.cell_row table known column

end Renaming

/-- A condition none of whose strings begins with a text with a quote selects a row of a
database without that text if it selects any row at all. -/
theorem exists_row_without {schema : Schema} {table : schema.Table} {condition : Expr}
    {text : Str} (quoted : '\'' ∈ text) (apart : ∀ string ∈ condition.strings, ¬ text <+: string)
    {db : Database schema} {row : Row} (mem : row ∈ db.rows table)
    (selected : condition.holds db (schema.env table row) = true) :
    ∃ other : Database schema, (∃ row ∈ other.rows table,
        condition.holds other (schema.env table row) = true) ∧
      ∀ table, ∀ row ∈ other.rows table, .str text ∉ row := by
  let names := Renaming.dodge text quoted
  refine ⟨names.database db, ⟨names.row row, List.mem_map_of_mem mem, ?_⟩, ?_⟩
  · rwa [names.holds_row db table row condition fun string mem =>
      dodge_eq_self (apart string mem)]
  · intro table renamed renamedMem found
    obtain ⟨row, -, rfl⟩ := List.mem_map.mp renamedMem
    obtain ⟨value, -, equal⟩ := List.mem_map.mp found
    cases value with
    | str string => exact dodge_ne text string (Value.str.inj equal)
    | _ => simp [Renaming.value] at equal

end Sql
