import Vcd.Sql.Lexical
import Mathlib.Logic.Function.Basic
import Mathlib.Data.List.Pairwise

/-!
# Databases with unique indices

A database over a schema holds a list of rows per table, in insertion order. Columns
have no declared type, so a cell holds any value and comparison never converts. The
unique indices are part of the type: no database holds two rows of one table that agree
on all columns of an index.
-/

namespace Sql

inductive Value where
  | null
  | int (value : Int)
  | str (value : Str)
  deriving DecidableEq, Repr

namespace Value

/-- SQL equality: a null equals nothing, and a number never equals a string. -/
def same : Value → Value → Bool
  | .int left, .int right => decide (left = right)
  | .str left, .str right => decide (left = right)
  | _, _ => false

@[simp] theorem same_int_right (value : Value) (right : Int) :
    value.same (.int right) = true ↔ value = .int right := by
  cases value <;> simp [same]

@[simp] theorem same_str_right (value : Value) (right : Str) :
    value.same (.str right) = true ↔ value = .str right := by
  cases value <;> simp [same]

theorem eq_of_same {left right : Value} (equal : left.same right = true) : left = right := by
  cases left <;> cases right <;> simp_all [same]

theorem same_comm (left right : Value) : left.same right = right.same left := by
  cases left <;> cases right <;> simp [same, eq_comm]

theorem same_self {value : Value} (known : value ≠ .null) : value.same value = true := by
  cases value <;> simp_all [same]

/-- The order of SQL results: nulls, then numbers, then strings. -/
def le : Value → Value → Bool
  | .null, _ => true
  | .int _, .null => false
  | .int left, .int right => decide (left ≤ right)
  | .int _, .str _ => true
  | .str left, .str right => !decide (right < left)
  | .str _, _ => false

theorem le_str {left right : Str} : (Value.str left).le (.str right) = true ↔ ¬ right < left := by
  rw [le, Bool.not_eq_true', decide_eq_false_iff_not]

theorem le_total (left right : Value) : left.le right = true ∨ right.le left = true := by
  cases left with
  | null => exact .inl rfl
  | int left => cases right <;> simp [le, Int.le_total]
  | str left =>
      cases right with
      | str right =>
          exact (List.le_total left right).imp (fun below => le_str.mpr (List.not_lt.mpr below))
            fun above => le_str.mpr (List.not_lt.mpr above)
      | _ => exact .inr rfl

theorem le_trans {first second third : Value} (left : first.le second = true)
    (right : second.le third = true) : first.le third = true := by
  match first, second, third with
  | .null, _, _ => rfl
  | .int first, .int second, .int third =>
      simp only [le, decide_eq_true_eq] at left right ⊢
      omega
  | .int _, _, .str _ => rfl
  | .str first, .str second, .str third =>
      apply le_str.mpr
      have below := List.not_lt.mp (le_str.mp left)
      exact List.not_lt.mpr (List.le_trans below (List.not_lt.mp (le_str.mp right)))

/-- `MAX` over the values of a column; nulls do not count. -/
def maximum (values : List Value) : Value :=
  values.foldl (fun best value => if best.le value then value else best) .null

/-- The maximum of some values is one of them. -/
theorem maximum_mem {values : List Value} (nonempty : values ≠ []) : maximum values ∈ values := by
  have among (best : Value) (rest : List Value) :
      rest.foldl (fun best value => if best.le value then value else best) best ∈ best :: rest := by
    induction rest generalizing best with
    | nil => simp
    | cons value rest ih =>
        rw [List.foldl_cons]
        split
        · exact List.mem_cons_of_mem _ (ih value)
        · rcases List.mem_cons.mp (ih best) with same | later
          · exact List.mem_cons.mpr (.inl same)
          · exact List.mem_cons_of_mem _ (List.mem_cons_of_mem _ later)
  cases values with
  | nil => exact absurd rfl nonempty
  | cons value rest => exact among value rest

/-- No value is above the maximum. -/
theorem le_maximum {values : List Value} {value : Value} (mem : value ∈ values) :
    value.le (maximum values) = true := by
  have above (best : Value) (rest : List Value) : ∀ value ∈ best :: rest, value.le
      (rest.foldl (fun best value => if best.le value then value else best) best) = true := by
    induction rest generalizing best with
    | nil =>
        intro value mem
        obtain rfl := List.mem_singleton.mp mem
        exact or_self_iff.mp (le_total value value)
    | cons next rest ih =>
        rw [List.foldl_cons]
        intro value mem
        split
        next larger =>
          rcases List.mem_cons.mp mem with rfl | mem
          · exact le_trans larger (ih next next List.mem_cons_self)
          · exact ih next value mem
        next smaller =>
          rcases List.mem_cons.mp mem with rfl | mem
          · exact ih value value List.mem_cons_self
          rcases List.mem_cons.mp mem with rfl | mem
          · exact le_trans ((le_total best value).resolve_left smaller)
              (ih best best List.mem_cons_self)
          · exact ih best value (List.mem_cons_of_mem _ mem)
  exact above .null values value (List.mem_cons_of_mem _ mem)

def add : Value → Value → Value
  | .int left, .int right => .int (left + right)
  | _, _ => .null

/-! ### Truth -/

/-- Blanks, tabs and line ends. -/
def isSpace (char : Char) : Bool :=
  char == ' ' || 9 ≤ char.toNat && char.toNat ≤ 13

/-- The digits the text begins with are not all zero. -/
def digitsNonzero (text : Str) : Bool :=
  (text.takeWhile Char.isDigit).any (· != '0')

def afterSign : Str → Str
  | [] => []
  | first :: rest => if first = '+' ∨ first = '-' then rest else first :: rest

/-- The number is not zero: a digit before or after its point is not. -/
def numberNonzero (number : Str) : Bool :=
  digitsNonzero number || match number.dropWhile Char.isDigit with
    | '.' :: fraction => digitsNonzero fraction
    | _ => false

/-- A number is true if it is not zero, and a string if the number it begins with is. -/
def truth : Value → Bool
  | .null => false
  | .int value => value != 0
  | .str text => numberNonzero (afterSign (text.dropWhile isSpace))

example : (str (cstr " -1st")).truth = true ∧ (str (cstr "x1")).truth = false := by decide

theorem takeWhile_quote {holds : Char → Bool} (stops : holds '\'' = false) (before after : Str) :
    (before ++ '\'' :: after).takeWhile holds = before.takeWhile holds := by
  induction before with
  | nil => simp [stops]
  | cons first before ih => simp only [List.cons_append, List.takeWhile_cons, ih]

theorem dropWhile_quote {holds : Char → Bool} (stops : holds '\'' = false) (before after : Str) :
    (before ++ '\'' :: after).dropWhile holds = before.dropWhile holds ++ '\'' :: after := by
  rw [List.dropWhile_append]
  split
  next all => simp [stops, List.isEmpty_iff.mp all]
  · rfl

theorem numberNonzero_quote (before after : Str) :
    numberNonzero (before ++ '\'' :: after) = numberNonzero before := by
  have digits (before : Str) : digitsNonzero (before ++ '\'' :: after) = digitsNonzero before := by
    rw [digitsNonzero, takeWhile_quote (by decide), digitsNonzero]
  rw [numberNonzero, digits, dropWhile_quote (by decide), numberNonzero]
  congr 1
  rcases before.dropWhile Char.isDigit with _ | ⟨first, fraction⟩
  · rfl
  · by_cases point : first = '.'
    · subst point
      exact digits fraction
    · simp [point]

/-- What follows a quote does not matter for the truth of a string. -/
theorem truth_quote (before after : Str) :
    (str (before ++ '\'' :: after)).truth = (str before).truth := by
  have signed (before : Str) :
      afterSign (before ++ '\'' :: after) = afterSign before ++ '\'' :: after := by
    cases before with
    | nil => rfl
    | cons first rest =>
        simp only [List.cons_append, afterSign]
        split
        · rfl
        · rfl
  rw [truth, dropWhile_quote (by decide), signed, numberNonzero_quote, truth]

end Value

abbrev Row := List Value

/-- Tables with their columns and unique indices. -/
structure Schema where
  Table : Type
  [decEq : DecidableEq Table]
  name : Table → Str
  named : Str → Option Table
  columns : Table → List Str
  unique : Table → List (List Str)

namespace Schema

variable (schema : Schema)

instance : DecidableEq schema.Table := schema.decEq

/-- The cell of a row in a named column. -/
def cell (table : schema.Table) (row : Row) (column : Str) : Value :=
  row.getD ((schema.columns table).idxOf column) .null

/-- A value other than null stands in the row. -/
theorem mem_of_cell {table : schema.Table} {row : Row} {column : Str} {value : Value}
    (known : schema.cell table row column = value) (nonnull : value ≠ .null) : value ∈ row := by
  subst known
  unfold cell at nonnull ⊢
  rw [List.getD_eq_getElem?_getD] at nonnull ⊢
  cases found : row[(schema.columns table).idxOf column]? with
  | none => simp [found] at nonnull
  | some value => exact List.mem_of_getElem? found

/-- Two rows that a unique index keeps apart. -/
def conflict (table : schema.Table) (left right : Row) : Bool :=
  (schema.unique table).any fun index => index.all fun column =>
    (schema.cell table left column).same (schema.cell table right column)

theorem conflict_comm (table : schema.Table) (left right : Row) :
    schema.conflict table left right = schema.conflict table right left := by
  simp only [conflict, Value.same_comm]

/-- Rows in conflict agree on the columns of some index. -/
theorem conflict_iff {table : schema.Table} {left right : Row} :
    schema.conflict table left right = true ↔ ∃ index ∈ schema.unique table,
      ∀ column ∈ index,
        (schema.cell table left column).same (schema.cell table right column) = true := by
  simp [conflict]

/-- No two rows of a table are in conflict. -/
def Distinct (table : schema.Table) (rows : List Row) : Prop :=
  rows.Pairwise fun left right => schema.conflict table left right = false

end Schema

/-- Rows of every table; the unique indices hold. -/
structure Database (schema : Schema) where
  rows : schema.Table → List Row
  distinct : ∀ table, schema.Distinct table (rows table)

namespace Database

variable {schema : Schema} (db : Database schema) (table : schema.Table)

/-- Two rows of one table in conflict are one row. -/
theorem eq_of_conflict {left right : Row} (leftMem : left ∈ db.rows table)
    (rightMem : right ∈ db.rows table)
    (clash : schema.conflict table left right = true) : left = right := by
  have : Std.Symm fun left right => schema.conflict table left right = false :=
    ⟨fun _ _ apart => by rwa [schema.conflict_comm]⟩
  by_contra ne
  simp [(db.distinct table).forall leftMem rightMem ne] at clash

/-- Exchange the rows of one table. -/
def setRows (rows : List Row) (apart : schema.Distinct table rows) : Database schema where
  rows := Function.update db.rows table rows
  distinct := fun other => by
    by_cases same : other = table
    · subst same
      simpa using apart
    · simpa [same] using db.distinct other

@[simp] theorem rows_setRows_same (rows : List Row) (apart : schema.Distinct table rows) :
    (db.setRows table rows apart).rows table = rows := by
  simp [setRows]

theorem rows_setRows_other {table other : schema.Table} (ne : other ≠ table)
    (rows : List Row) (apart : schema.Distinct table rows) :
    (db.setRows table rows apart).rows other = db.rows other := by
  simp [setRows, ne]

/-! ## Changes of one table -/

/-- Delete the selected rows. -/
def delete (selected : Row → Bool) : Database schema :=
  db.setRows table ((db.rows table).filter fun row => !selected row)
    ((db.distinct table).sublist List.filter_sublist)

/-- The rows an inserted row leaves in place. -/
def spared (row : Row) : List Row :=
  (db.rows table).filter fun other => !schema.conflict table other row

/-- Insert a row in place of all rows it is in conflict with. -/
def replace (row : Row) : Database schema :=
  db.setRows table (db.spared table row ++ [row]) (by
    refine List.pairwise_append.mpr ⟨(db.distinct table).sublist List.filter_sublist,
      List.pairwise_singleton _ _, fun other mem last lastMem => ?_⟩
    obtain rfl := List.mem_singleton.mp lastMem
    simpa using (List.mem_filter.mp mem).2)

/-- Insert a row, which must be in conflict with none. -/
def insert (row : Row) : Option (Database schema) :=
  if (db.rows table).any (schema.conflict table · row) then none
  else some (db.replace table row)

/-- Rewrite the selected rows one after the other. Every new row must be apart from all
rows as they are at that moment. -/
def rewriteRows (table : schema.Table) (selected : Row → Bool) (assign : Row → Row) :
    (done todo : List Row) → schema.Distinct table (done ++ todo) →
      Option { rows : List Row // schema.Distinct table rows }
  | done, [], apart => some ⟨done, by simpa using apart⟩
  | done, row :: todo, apart =>
      let new := if selected row then assign row else row
      if clean : (done ++ todo).all (fun other => !schema.conflict table other new) then
        rewriteRows table selected assign (done ++ [new]) todo (by
          have others : schema.Distinct table (done ++ todo) :=
            List.Pairwise.sublist (by simp) apart
          obtain ⟨doneApart, todoApart, cross⟩ := List.pairwise_append.mp others
          have newApart : ∀ other ∈ done ++ todo,
              schema.conflict table other new = false := by
            simpa only [List.all_eq_true, Bool.not_eq_true'] using clean
          simp only [Schema.Distinct, List.append_assoc, List.singleton_append]
          refine List.pairwise_append.mpr ⟨doneApart, List.pairwise_cons.mpr
            ⟨fun other mem => ?_, todoApart⟩, fun left mem right rightMem => ?_⟩
          · rw [schema.conflict_comm]
            exact newApart other (List.mem_append_right _ mem)
          · rcases List.mem_cons.mp rightMem with rfl | rightMem
            · exact newApart left (List.mem_append_left _ mem)
            · exact cross left mem right rightMem)
      else none

def update (selected : Row → Bool) (assign : Row → Row) : Option (Database schema) :=
  (rewriteRows table selected assign [] (db.rows table) (db.distinct table)).map
    fun rewritten => db.setRows table rewritten.1 rewritten.2

/-! ## What a change leaves -/

theorem rows_delete_same (selected : Row → Bool) :
    (db.delete table selected).rows table =
      (db.rows table).filter fun row => !selected row :=
  db.rows_setRows_same table _ _

theorem rows_delete_other {table other : schema.Table} (ne : other ≠ table)
    (selected : Row → Bool) : (db.delete table selected).rows other = db.rows other :=
  db.rows_setRows_other ne _ _

/-- A deletion adds no row to any table. -/
theorem rows_delete_subset (selected : Row → Bool) (other : schema.Table) :
    (db.delete table selected).rows other ⊆ db.rows other := by
  by_cases same : other = table
  · subst same
    rw [rows_delete_same]
    exact List.filter_subset_self _
  · rw [rows_delete_other db same]
    exact List.Subset.refl _

theorem rows_replace_same (row : Row) :
    (db.replace table row).rows table = db.spared table row ++ [row] :=
  db.rows_setRows_same table _ _

theorem rows_replace_other {table other : schema.Table} (ne : other ≠ table) (row : Row) :
    (db.replace table row).rows other = db.rows other :=
  db.rows_setRows_other ne _ _

variable {db table}

theorem insert_eq_some {row : Row} {next : Database schema}
    (inserted : db.insert table row = some next) :
    next = db.replace table row ∧
      ∀ other ∈ db.rows table, schema.conflict table other row = false := by
  unfold insert at inserted
  split at inserted
  · contradiction
  next apart =>
    refine ⟨(Option.some.inj inserted).symm, fun other mem => ?_⟩
    simp only [List.any_eq_true, not_exists, not_and, Bool.not_eq_true] at apart
    exact apart other mem

theorem spared_eq_rows {row : Row}
    (apart : ∀ other ∈ db.rows table, schema.conflict table other row = false) :
    db.spared table row = db.rows table := by
  simpa [spared] using apart

/-- A successful insertion appends its row. -/
theorem rows_insert_same {row : Row} {next : Database schema}
    (inserted : db.insert table row = some next) :
    next.rows table = db.rows table ++ [row] := by
  obtain ⟨rfl, apart⟩ := insert_eq_some inserted
  rw [rows_replace_same, spared_eq_rows apart]

/-- Every rewritten row is an old row or an assigned selected one. -/
theorem rewriteRows_map {selected : Row → Bool} {assign : Row → Row} {done todo : List Row}
    {apart : schema.Distinct table (done ++ todo)}
    {rewritten : { rows : List Row // schema.Distinct table rows }}
    (known : rewriteRows table selected assign done todo apart = some rewritten) :
    rewritten.1 = done ++ todo.map fun row => if selected row then assign row else row := by
  induction todo generalizing done with
  | nil =>
      obtain rfl := Option.some.inj known
      simp
  | cons row todo ih =>
      simp only [rewriteRows, Option.dite_none_right_eq_some] at known
      obtain ⟨_, known⟩ := known
      rw [ih known]
      simp

theorem rows_update_same {selected : Row → Bool} {assign : Row → Row}
    {next : Database schema} (updated : db.update table selected assign = some next) :
    next.rows table =
      (db.rows table).map fun row => if selected row then assign row else row := by
  obtain ⟨rewritten, known, rfl⟩ := Option.map_eq_some_iff.mp updated
  rw [rows_setRows_same, rewriteRows_map known, List.nil_append]

theorem rows_update_other {other : schema.Table} {selected : Row → Bool}
    {assign : Row → Row} {next : Database schema}
    (updated : db.update table selected assign = some next) (ne : other ≠ table) :
    next.rows other = db.rows other := by
  obtain ⟨rewritten, -, rfl⟩ := Option.map_eq_some_iff.mp updated
  exact db.rows_setRows_other ne _ _

/-- Assignments that leave the columns of all indices alone never fail. -/
theorem rewriteRows_steady {selected : Row → Bool} {assign : Row → Row}
    (steady : ∀ row, selected row = true → ∀ other,
      schema.conflict table other (assign row) = schema.conflict table other row)
    {done todo : List Row} (apart : schema.Distinct table (done ++ todo)) :
    ∃ rewritten, rewriteRows table selected assign done todo apart = some rewritten := by
  induction todo generalizing done with
  | nil => exact ⟨_, rfl⟩
  | cons row todo ih =>
      have clean : (done ++ todo).all (fun other =>
          !schema.conflict table other (if selected row then assign row else row)) = true := by
        obtain ⟨-, todoApart, cross⟩ := List.pairwise_append.mp apart
        refine List.all_eq_true.mpr fun other mem => ?_
        have old : schema.conflict table other row = false := by
          rcases List.mem_append.mp mem with mem | mem
          · exact cross other mem row List.mem_cons_self
          · rw [schema.conflict_comm]
            exact (List.pairwise_cons.mp todoApart).1 other mem
        cases chosen : selected row with
        | true => simp [steady row chosen other, old]
        | false => simp [old]
      obtain ⟨rewritten, known⟩ := ih _
      refine ⟨rewritten, ?_⟩
      rw [rewriteRows, dif_pos clean]
      exact known

theorem update_steady (db : Database schema) {selected : Row → Bool} {assign : Row → Row}
    (steady : ∀ row, selected row = true → ∀ other,
      schema.conflict table other (assign row) = schema.conflict table other row) :
    ∃ next, db.update table selected assign = some next := by
  obtain ⟨rewritten, known⟩ :=
    @rewriteRows_steady schema table selected assign steady [] (db.rows table) (db.distinct table)
  exact ⟨_, congrArg (Option.map _) known⟩

end Database

end Sql
