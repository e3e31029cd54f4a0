import Vcd.Sql.Database
import Vcd.Sql.Syntax
import Mathlib.Data.List.Sort

/-!
# Execution of SQL texts

Statements are resolved against a schema into commands on databases. A text runs its
commands in order and stops at the first failure, as one call of the library does; a
transaction left open is rolled back when the connection is closed.
-/

namespace Sql

variable {schema : Schema}

/-! ## Expressions -/

/-- The value of every column name, qualified or not. -/
abbrev Env := Option Str → Str → Value

namespace Schema

variable (schema)

/-- The columns of one row. -/
def env (table : schema.Table) (row : Row) : Env :=
  fun _ column => schema.cell table row column

/-- A name denotes a column of the table. -/
def knows (table : schema.Table) (qualifier : Option Str) (column : Str) : Bool :=
  (schema.columns table).contains column && qualifier.all (· == schema.name table)

/-- The columns of two joined rows. A name both tables know belongs to the first. -/
def joinEnv (left right : schema.Table) (leftRow rightRow : Row) : Env :=
  fun qualifier column =>
    if schema.knows left qualifier column then schema.cell left leftRow column
    else schema.cell right rightRow column

end Schema

namespace Expr

/-- Every column of the expression is known, and so is every table of a subquery. -/
def resolves (schema : Schema) (knows : Option Str → Str → Bool) : Expr → Bool
  | .int _ | .str _ => true
  | .column table name => knows table name
  | .maxOf name table => (schema.named table).any fun table => schema.knows table none name
  | .add left right | .eq left right | .and left right | .or left right =>
      left.resolves schema knows && right.resolves schema knows

/-- The largest value of a column. -/
def maximumOf (db : Database schema) (name table : Str) : Value :=
  match schema.named table with
  | some table => .maximum ((db.rows table).map fun row => schema.cell table row name)
  | none => .null

mutual

def value (db : Database schema) (env : Env) : Expr → Value
  | .int value => .int value
  | .str value => .str value
  | .column table name => env table name
  | .maxOf name table => maximumOf db name table
  | .add left right => (left.value db env).add (right.value db env)
  | .eq left right => .int (if (left.value db env).same (right.value db env) then 1 else 0)
  | .and left right => .int (if left.holds db env && right.holds db env then 1 else 0)
  | .or left right => .int (if left.holds db env || right.holds db env then 1 else 0)
termination_by structural expr => expr

/-- A condition selects the rows it is true on; false and null are not told apart. -/
def holds (db : Database schema) (env : Env) : Expr → Bool
  | .eq left right => (left.value db env).same (right.value db env)
  | .and left right => left.holds db env && right.holds db env
  | .or left right => left.holds db env || right.holds db env
  | .int value => value != 0
  | .str value => (Value.str value).truth
  | .column table name => (env table name).truth
  | .maxOf name table => (maximumOf db name table).truth
  | .add left right => ((left.value db env).add (right.value db env)).truth
termination_by structural expr => expr

end

/-- The value of a constant expression. -/
def constant : Expr → Option Value
  | .int value => some (.int value)
  | .str value => some (.str value)
  | _ => none

end Expr

/-! ## Changes -/

/-- A resolved change of one table. -/
inductive Change (schema : Schema) where
  | insert (table : schema.Table) (row : Row)
  | replace (table : schema.Table) (row : Row)
  | delete (table : schema.Table) (selected : Database schema → Row → Bool)
  | update (table : schema.Table) (selected : Database schema → Row → Bool)
      (assign : Database schema → Row → Row)

namespace Change

def table : Change schema → schema.Table
  | .insert table _ | .replace table _ | .delete table _ | .update table _ _ => table

/-- The next database, unless the change violates a unique index. -/
def apply (db : Database schema) : Change schema → Option (Database schema)
  | .insert table row => db.insert table row
  | .replace table row => some (db.replace table row)
  | .delete table selected => some (db.delete table (selected db))
  | .update table selected assign => db.update table (selected db) (assign db)

/-- The number of rows a change reports. -/
def count (db : Database schema) : Change schema → Nat
  | .insert _ _ | .replace _ _ => 1
  | .delete table selected | .update table selected _ =>
      ((db.rows table).filter (selected db)).length

theorem rows_apply_other {change : Change schema} {db next : Database schema}
    (applied : change.apply db = some next) {other : schema.Table}
    (ne : other ≠ change.table) : next.rows other = db.rows other := by
  cases change with
  | insert table row =>
      obtain ⟨rfl, -⟩ := Database.insert_eq_some applied
      exact db.rows_replace_other ne row
  | replace table row =>
      obtain rfl := Option.some.inj applied
      exact db.rows_replace_other ne row
  | delete table selected =>
      obtain rfl := Option.some.inj applied
      exact db.rows_delete_other ne _
  | update table selected assign => exact Database.rows_update_other applied ne

end Change

/-- A resolved statement. A query inside an executed text has no effect. -/
inductive Command (schema : Schema) where
  | begin
  | commit
  | query
  | change (change : Change schema)

/-! ## Queries -/

namespace Select

/-- A combination of rows a query reads. -/
abbrev Source (schema : Schema) := (Option Str → Str → Bool) × (Database schema → List Env)

/-- The combinations a query reads, in the order in which their rows were inserted. The library
leaves this order open unless there is an `ORDER BY`. -/
def source (schema : Schema) (query : Select) : Option (Source schema) := do
  let table ← schema.named query.table
  match query.join with
  | none => some (schema.knows table, fun db => (db.rows table).map (schema.env table))
  | some (joined, condition) =>
      let joined ← schema.named joined
      let knows := fun qualifier column =>
        schema.knows table qualifier column || schema.knows joined qualifier column
      if condition.resolves schema knows then
        some (knows, fun db => (db.rows table).flatMap fun row =>
          ((db.rows joined).map (schema.joinEnv table joined row)).filter
            (condition.holds db))
      else none

end Select

def Projection.resolves (knows : Option Str → Str → Bool) : Projection → Bool
  | .column table name => knows table name
  | .count name | .max name => knows none name

def Projection.aggregates : Projection → Bool
  | .column _ _ => false
  | .count _ | .max _ => true

/-- A result column over all rows; only counts and maxima look at more than the first. -/
def Projection.summary (envs : List Env) : Projection → Value
  | .column table name => (envs.head?.map (· table name)).getD .null
  | .count name => .int (envs.filter fun env => env none name != .null).length
  | .max name => .maximum (envs.map (· none name))

def Projection.single (env : Env) : Projection → Value
  | .column table name => env table name
  | .count name | .max name => env none name

namespace Select

def resolves (query : Select) (schema : Schema) (knows : Option Str → Str → Bool) : Bool :=
  query.projections.all (·.resolves knows) &&
    query.condition.all (·.resolves schema knows) &&
      query.order.all fun (table, name, _) => knows table name

def ordered (query : Select) (envs : List Env) : List Env :=
  match query.order with
  | none => envs
  | some (table, name, false) =>
      envs.insertionSort fun left right => (left table name).le (right table name) = true
  | some (table, name, true) =>
      envs.insertionSort fun left right => (right table name).le (left table name) = true

/-- The environments the condition selects. -/
def chosen (query : Select) (db : Database schema) (envs : List Env) : List Env :=
  match query.condition with
  | none => envs
  | some condition => envs.filter (condition.holds db)

def limited (query : Select) (envs : List Env) : List Env :=
  match query.limit with
  | none => envs
  | some count => envs.take count

/-- The rows of the result. -/
def answer (query : Select) (db : Database schema) (envs : List Env) : List Row :=
  if query.projections.any (·.aggregates) then
    [query.projections.map (·.summary (query.chosen db envs))]
  else
    (query.limited (query.ordered (query.chosen db envs))).map fun env =>
      query.projections.map (Projection.single env)

def run (query : Select) (db : Database schema) : Option (List Row) := do
  let (knows, envs) ← query.source schema
  if query.resolves schema knows then some (query.answer db (envs db)) else none

end Select

/-! ## Statements -/

/-- The row an insertion builds; columns it does not name are null. -/
def Schema.newRow (schema : Schema) (table : schema.Table) (names : List Str)
    (values : List Value) : Option Row :=
  if names.length = values.length ∧ names.all (schema.columns table).contains then
    some ((schema.columns table).map fun column =>
      ((names.zip values).lookup column).getD .null)
  else none

/-- The rewriting of a row by assignments. -/
def Schema.assign (schema : Schema) (table : schema.Table) (assignments : List (Str × Expr))
    (db : Database schema) (row : Row) : Row :=
  (schema.columns table).map fun column =>
    match assignments.lookup column with
    | some expr => expr.value db (schema.env table row)
    | none => schema.cell table row column

def selection (table : schema.Table) : Option Expr → Database schema → Row → Bool
  | none, _, _ => true
  | some condition, db, row => condition.holds db (schema.env table row)

/-- Resolve the names of a statement. -/
def Statement.command (schema : Schema) : Statement → Option (Command schema)
  | .begin => some .begin
  | .commit => some .commit
  | .select query => do
      let (knows, _) ← query.source schema
      if query.resolves schema knows then some .query else none
  | .evaluate expr => if expr.resolves schema fun _ _ => false then some .query else none
  | .insert orReplace table columns values => do
      let table ← schema.named table
      let values ← values.mapM Expr.constant
      let row ← schema.newRow table (columns.getD (schema.columns table)) values
      some (.change (if orReplace then .replace table row else .insert table row))
  | .delete table condition => do
      let table ← schema.named table
      if condition.all (·.resolves schema (schema.knows table)) then
        some (.change (.delete table (selection table condition)))
      else none
  | .update table assignments condition => do
      let table ← schema.named table
      if condition.all (·.resolves schema (schema.knows table)) &&
          assignments.all fun (name, expr) => (schema.columns table).contains name &&
            expr.resolves schema (schema.knows table) then
        some (.change (.update table (selection table condition)
          (schema.assign table assignments)))
      else none

/-- The resolved statements of parsed segments. -/
def resolve (schema : Schema) (parsed : List (Option Statement)) :
    List (Option (Command schema)) :=
  parsed.map (·.bind (Statement.command schema))

/-- The commands of a text. -/
def commands (schema : Schema) (text : Str) : List (Option (Command schema)) :=
  resolve schema (parse text)

/-! ## Execution -/

/-- A connection: the database it sees, and inside a transaction also the one that the
transaction started from. -/
structure Connection (schema : Schema) where
  db : Database schema
  saved : Option (Database schema) := none
  changes : Nat := 0

namespace Connection

/-- The database after an open transaction is rolled back. -/
def committed (connection : Connection schema) : Database schema :=
  connection.saved.getD connection.db

/-- Run the commands up to the first failure. -/
def exec (connection : Connection schema) :
    List (Option (Command schema)) → Connection schema × Bool
  | [] => (connection, true)
  | none :: _ => (connection, false)
  | some .query :: rest => connection.exec rest
  | some .begin :: rest =>
      match connection.saved with
      | none => exec { connection with saved := some connection.db } rest
      | some _ => (connection, false)
  | some .commit :: rest =>
      match connection.saved with
      | none => (connection, false)
      | some _ => exec { connection with saved := none } rest
  | some (.change change) :: rest =>
      match change.apply connection.db with
      | none => (connection, false)
      | some db => exec { connection with db, changes := change.count connection.db } rest

end Connection

/-- What one call reports: success, and the rows changed by the last statement. -/
structure Outcome where
  ok : Bool
  changes : Nat

/-- Run a text on a connection of its own. -/
def execText (db : Database schema) (text : Str) : Database schema × Outcome :=
  let (connection, ok) := ({ db } : Connection schema).exec (commands schema text)
  (connection.committed, { ok, changes := connection.changes })

/-- The rows of the first statement of a text, which must be a query. -/
def prepareText (db : Database schema) (text : Str) : Option (List Row) :=
  match parse text with
  | some (.select query) :: _ => query.run db
  | _ => none

/-! ## Changes in a text -/

/-- Apply changes one after the other, all or nothing. -/
def applyAll (db : Database schema) : List (Change schema) → Option (Database schema)
  | [] => some db
  | change :: rest => (change.apply db).bind (applyAll · rest)

theorem applyAll_singleton {db : Database schema} {change : Change schema} :
    applyAll db [change] = change.apply db := by
  simp [applyAll]

theorem applyAll_append (db : Database schema) (left right : List (Change schema)) :
    applyAll db (left ++ right) = (applyAll db left).bind (applyAll · right) := by
  induction left generalizing db with
  | nil => rfl
  | cons change rest ih =>
      simp only [List.cons_append, applyAll, Option.bind_assoc, ih]

/-- A text with a single change. -/
theorem execText_single {db : Database schema} {text : Str} {change : Change schema}
    (known : commands schema text = [some (.change change)]) :
    (execText db text).1 = (change.apply db).getD db ∧
      (execText db text).2.ok = (change.apply db).isSome := by
  unfold execText
  rw [known]
  cases applied : change.apply db with
  | none => simp [Connection.exec, applied, Connection.committed]
  | some next => simp [Connection.exec, applied, Connection.committed]

/-- A text with a single change that can be made reports the rows it changes. -/
theorem changes_execText_single {db next : Database schema} {text : Str} {change : Change schema}
    (known : commands schema text = [some (.change change)])
    (applied : change.apply db = some next) :
    (execText db text).2.changes = change.count db := by
  unfold execText
  rw [known]
  simp [Connection.exec, applied]

theorem exec_changes (connection : Connection schema) {changes : List (Change schema)}
    (rest : List (Option (Command schema))) {next : Database schema}
    (applied : applyAll connection.db changes = some next) :
    ∃ reported, connection.exec (changes.map (some ∘ .change) ++ rest) =
      ({ connection with db := next, changes := reported } : Connection schema).exec rest := by
  induction changes generalizing connection with
  | nil =>
      obtain rfl := Option.some.inj applied
      exact ⟨connection.changes, rfl⟩
  | cons change changes ih =>
      obtain ⟨db, first, later⟩ := Option.bind_eq_some_iff.mp applied
      obtain ⟨reported, equal⟩ :=
        ih { connection with db, changes := change.count connection.db } later
      refine ⟨reported, ?_⟩
      simp only [List.map_cons, List.cons_append, Function.comp_apply, Connection.exec, first]
      exact equal

theorem exec_changes_none (connection : Connection schema) {changes : List (Change schema)}
    (rest : List (Option (Command schema)))
    (failed : applyAll connection.db changes = none) :
    (connection.exec (changes.map (some ∘ .change) ++ rest)).2 = false ∧
      (connection.exec (changes.map (some ∘ .change) ++ rest)).1.saved = connection.saved := by
  induction changes generalizing connection with
  | nil => simp [applyAll] at failed
  | cons change changes ih =>
      simp only [List.map_cons, List.cons_append, Function.comp_apply, Connection.exec]
      cases first : change.apply connection.db with
      | none => simp
      | some db =>
          have later : applyAll db changes = none := by simpa [applyAll, first] using failed
          exact ih { connection with db, changes := _ } later

/-- A transaction takes effect as a whole or not at all. -/
theorem execText_transaction {db : Database schema} {text : Str}
    {changes : List (Change schema)}
    (known : commands schema text =
      some .begin :: changes.map (some ∘ .change) ++ [some .commit]) :
    (execText db text).1 = (applyAll db changes).getD db ∧
      (execText db text).2.ok = (applyAll db changes).isSome := by
  unfold execText
  simp only [known, List.cons_append, Connection.exec]
  cases applied : applyAll db changes with
  | none =>
      obtain ⟨failed, saved⟩ := exec_changes_none { db, saved := some db } [some .commit] applied
      simp [Connection.committed, failed, saved]
  | some next =>
      obtain ⟨reported, equal⟩ := exec_changes { db, saved := some db } [some .commit] applied
      simp [equal, Connection.exec, Connection.committed]

end Sql
