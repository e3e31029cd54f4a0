import Vcd.Discipline.Config
import Vcd.Endings

/-!
# Writers of configuration

A writer of configuration that returns has executed one statement for the context its name
denotes, and changed nothing else but a counter and its lock. It returns whenever its checks
admit the request, the name is known and the statement succeeds.
-/

namespace Vcd

open Sql Process

variable {host : Host} {function : Str} {caps : UInt64} {world next : World} {db : Vxdb}
  {reader : Xml → Except Fault (Str × (Int → List Piece))} {credentials params answer : Xml}

/-! ## What a setting leaves -/

namespace Setting

/-- The rows of its table that a setting leaves. -/
def leaves (setting : Setting) (xid : Int) (rows : List Row) : List Row :=
  match setting with
  | .put table rest =>
      rows.filter (fun row => !vxdbSchema.conflict table row (.int xid :: rest)) ++
        [.int xid :: rest]
  | .remove table key value =>
      rows.filter fun row => !(ofXid xid row && (table.cell row key).same value)
  | .clear _ => rows.filter fun row => !ofXid xid row

theorem apply_change (setting : Setting) (xid : Int) (db : Vxdb) : ∃ last,
    (setting.change xid).apply db = some last ∧
      last.rows setting.table = setting.leaves xid (db.rows setting.table) := by
  cases setting with
  | put table rest => exact ⟨_, rfl, Database.rows_replace_same db table _⟩
  | remove table key value => exact ⟨_, rfl, Database.rows_delete_same db table _⟩
  | clear table => exact ⟨_, rfl, Database.rows_delete_same db table _⟩

theorem table_change (setting : Setting) (xid : Int) :
    (setting.change xid).table = setting.table := by
  cases setting <;> rfl

/-- A row with a value in each column is in conflict with itself. -/
theorem conflict_self {table : Table} {row : Row} (full : row.length = (Table.columns table).length)
    (values : ∀ value ∈ row, value ≠ .null) : vxdbSchema.conflict table row row = true := by
  have indices : ∃ index ∈ Table.unique table, ∀ column ∈ index, column ∈ Table.columns table := by
    cases table <;> decide
  obtain ⟨index, listed, columns⟩ := indices
  refine vxdbSchema.conflict_iff.mpr ⟨index, listed, fun column mem => Value.same_self ?_⟩
  have inside : (Table.columns table).idxOf column < row.length := by
    rw [full]
    exact List.idxOf_lt_length_iff.mpr (columns column mem)
  change row.getD ((Table.columns table).idxOf column) .null ≠ .null
  rw [List.getD_eq_getElem?_getD, List.getElem?_eq_getElem inside, Option.getD_some]
  exact values _ (List.getElem_mem inside)

theorem filter_put {keep : Row → Bool} {row : Row} (replaced : keep row = false)
    (rows : List Row) :
    (rows.filter keep ++ [row]).filter keep ++ [row] = rows.filter keep ++ [row] := by
  rw [List.filter_append, List.filter_filter, List.filter_cons_of_neg (by simp [replaced])]
  simp

/-- A full setting leaves what it has left before. -/
theorem leaves_leaves {setting : Setting} (full : setting.Full) (xid : Int) (rows : List Row) :
    setting.leaves xid (setting.leaves xid rows) = setting.leaves xid rows := by
  cases setting with
  | put table rest =>
      apply filter_put
      rw [conflict_self (by rw [List.length_cons, full.1])]
      · rfl
      · intro value mem
        rcases List.mem_cons.mp mem with rfl | mem
        · nofun
        · exact full.2 value mem
  | remove table key value => exact List.filter_eq_self.mpr fun row mem => (List.mem_filter.mp mem).2
  | clear table => exact List.filter_eq_self.mpr fun row mem => (List.mem_filter.mp mem).2

end Setting

/-- The statement of a setting succeeds, and changes the rows of its table as the setting
says. -/
theorem Sets.execText {sql : Int → List Piece} {setting : Setting} (sets : Sets sql setting)
    (xid : Int) (db : Vxdb) : (Sql.execText db (render (sql xid))).2.ok = true ∧
      (Sql.execText db (render (sql xid))).1.rows setting.table =
        setting.leaves (int32 xid) (db.rows setting.table) ∧
      ∀ other, other ≠ setting.table →
        (Sql.execText db (render (sql xid))).1.rows other = db.rows other := by
  obtain ⟨after, ok⟩ := sets xid db
  obtain ⟨last, applied, rows⟩ := setting.apply_change (int32 xid) db
  rw [applyAll_singleton, applied] at after ok
  rw [Option.getD_some] at after
  rw [after]
  refine ⟨ok, rows, fun other ne => ?_⟩
  apply Change.rows_apply_other applied
  rwa [setting.table_change]

/-! ## Returning -/

/-- The world in which a writer of configuration executes its statement. -/
def beginning (world : World) (params : Xml) : World :=
  { world with db := counted world.db }.locked params { owner := true, lock := true }

/-- The request is admitted, and its statement for a known name is executed. -/
structure WroteConfig (host : Host) (caps : UInt64)
    (reader : Xml → Except Fault (Str × (Int → List Piece))) (credentials params : Xml)
    (world next : World) (name : Str) (sql : Int → List Piece) : Prop where
  admitted : admissionIn (counted world.db).oracle host world.free credentials params caps
    { owner := true, lock := true } = .ok params
  read : reader params = .ok (name, sql)
  found : xidIn world.db.oracle name ≠ 0
  executed : (execText (counted world.db) (render (sql (xidIn world.db.oracle name)))).2.ok = true
  last : next = { beginning world params with
    db := (execText (counted world.db) (render (sql (xidIn world.db.oracle name)))).1 }

theorem xidIn_counted (name : Str) (db : Vxdb) :
    xidIn (counted db).oracle name = xidIn db.oracle name :=
  xidIn_of_rows (counts_sqlRequests.rows db nofun) name

theorem returned_configWrite
    (ended : ends (configWrite host function caps reader (.client credentials params)) world =
      (.returned answer, next)) :
    ∃ name sql, WroteConfig host caps reader credentials params world next name sql := by
  obtain ⟨admitted, ended⟩ := returned_admitted ended
  obtain ⟨⟨name, sql⟩, read, ended⟩ := returned_ofExcept ended
  dsimp only at ended
  rw [ends_lookup (lookup_vxdbGetxid name) (answer_vxdbGetxid _ name), World.db_locked] at ended
  obtain ⟨found, ended⟩ := returned_check ended
  rw [ends_exec, World.db_locked] at ended
  obtain ⟨executed, ended⟩ := returned_check ended
  rw [Bool.not_eq_true', Bool.not_eq_false] at executed
  have last := returned_pure ended
  dsimp only at found executed last
  rw [xidIn_counted] at found executed last
  exact ⟨name, sql, admitted, read, found, executed, last.symm⟩

/-- The checks of the request let it through to its statement for a known name. -/
structure Executes (host : Host) (caps : UInt64)
    (reader : Xml → Except Fault (Str × (Int → List Piece))) (credentials params : Xml)
    (world : World) (name : Str) (sql : Int → List Piece) : Prop where
  admitted : admissionIn (counted world.db).oracle host world.free credentials params caps
    { owner := true, lock := true } = .ok params
  read : reader params = .ok (name, sql)
  found : xidIn world.db.oracle name ≠ 0

/-- A request that gets to its statement ends as that leaves it. -/
theorem Executes.ends_configWrite {name : Str} {sql : Int → List Piece}
    (executes : Executes host caps reader credentials params world name sql) :
    ends (configWrite host function caps reader (.client credentials params)) world =
      ends (do
        if !(execText (counted world.db) (render (sql (xidIn world.db.oracle name)))).2.ok then
          vxdbFault function
        return .nil)
      { beginning world params with
        db := (execText (counted world.db) (render (sql (xidIn world.db.oracle name)))).1 } := by
  have results := results_methodInit host credentials params caps { owner := true, lock := true }
    world
  rw [executes.admitted] at results
  have first : Vcd.ends (methodInit host (.client credentials params) caps
      { owner := true, lock := true }) world = (.returned params, beginning world params) := results
  unfold configWrite
  rw [ends_bind (counting_methodInit host credentials params caps _).contained, first]
  change Vcd.ends (ofExcept (reader params) >>= _) (beginning world params) = _
  rw [executes.read, ends_ofExcept]
  dsimp only
  rw [ends_lookup (lookup_vxdbGetxid name) (answer_vxdbGetxid _ name), beginning,
    World.db_locked, xidIn_counted, if_neg executes.found, ends_exec, World.db_locked]

/-- A request that does not get to its statement changes nothing but a counter. -/
theorem sameRows_refused
    (refused : ∀ name sql, ¬ Executes host caps reader credentials params world name sql) :
    SameRows world.db
      (ends (configWrite host function caps reader (.client credentials params)) world).2.db := by
  have counts := sameRows_counts counts_sqlRequests world.db
  have results := results_methodInit host credentials params caps { owner := true, lock := true }
    world
  unfold configWrite
  rw [ends_bind (counting_methodInit host credentials params caps _).contained]
  unfold Results at results
  split at results
  next admitted known =>
    obtain rfl := admissionIn_eq_ok known
    rw [results]
    change SameRows _ (ends (ofExcept (reader params) >>= _) (beginning world params)).2.db
    rw [ends_ofExcept]
    cases read : reader params with
    | error fault =>
        change SameRows _ (beginning world params).db
        rwa [beginning, World.db_locked]
    | ok given =>
        obtain ⟨name, sql⟩ := given
        dsimp only
        rw [ends_lookup (lookup_vxdbGetxid name) (answer_vxdbGetxid _ name), beginning,
          World.db_locked, xidIn_counted]
        by_cases unknown : xidIn world.db.oracle name = 0
        · rw [if_pos unknown]
          change SameRows _ (World.locked _ _ _).db
          rwa [World.db_locked]
        · exact absurd ⟨known, read, unknown⟩ (refused name sql)
  next =>
    obtain ⟨after, same, failed⟩ := results
    rw [failed]
    exact same

theorem WroteConfig.ends {name : Str} {sql : Int → List Piece}
    (wrote : WroteConfig host caps reader credentials params world next name sql) :
    ends (configWrite host function caps reader (.client credentials params)) world =
      (.returned .nil, next) := by
  have executes : Executes host caps reader credentials params world name sql :=
    ⟨wrote.admitted, wrote.read, wrote.found⟩
  rw [executes.ends_configWrite, wrote.executed, ← wrote.last]
  rfl

end Vcd
