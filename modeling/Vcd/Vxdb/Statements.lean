import Vcd.Methods.Create
import Vcd.Methods.Groups
import Vcd.Methods.Helpers
import Vcd.Methods.Rights
import Vcd.Sql.Effects
import Vcd.Vxdb.Meaning

/-!
# What statements do

The commands of the texts the methods execute. A text is read piece by piece, so a string
argument only needs to stay inside its literal.
-/

namespace Vcd

open Sql Process

abbrev Command := Sql.Command vxdbSchema

abbrev Change := Sql.Change vxdbSchema

/-- The commands of pieces whose string arguments are closed. -/
def readCommands (pieces : List Piece) : Option (List (Option Command)) :=
  (readPieces (pieces.map Piece.unquoted)).map (resolve vxdbSchema)

theorem commands_of_read {pieces : List Piece} {parsed : List (Option Command)}
    (closed : ∀ piece ∈ pieces, piece.Closed) (read : readCommands pieces = some parsed) :
    commands vxdbSchema (render pieces) = parsed := by
  obtain ⟨statements, known, rfl⟩ := Option.map_eq_some_iff.mp read
  exact commands_render closed known

/-- A text that reads as a single change. -/
theorem runs_of_read {pieces : List Piece} {change : Change}
    (closed : ∀ piece ∈ pieces, piece.Closed)
    (read : readCommands pieces = some [some (.change change)]) :
    Runs (render pieces) [change] :=
  .single (commands_of_read closed read)

/-! ## Regions -/

/-- The context id of a row, which is the first column of every table that has one. -/
def xidOf (row : Row) : Value :=
  row.getD 0 .null

/-- Select the rows of a context. -/
def ofXid (xid : Int) (row : Row) : Bool :=
  (xidOf row).same (.int xid)

@[simp] theorem ofXid_iff {xid : Int} {row : Row} :
    ofXid xid row = true ↔ xidOf row = .int xid :=
  Value.same_int_right _ _

/-- All rows of some tables. -/
def allOf (tables : List Table) : Region vxdbSchema :=
  fun table _ => tables.contains table

/-- The rows of a context in some tables. -/
def rowsOf (tables : List Table) (xid : Int) : Region vxdbSchema :=
  fun table row => tables.contains table && ofXid xid row

/-- No row at all. -/
def nowhere : Region vxdbSchema :=
  fun _ _ => false

theorem allOf_iff {tables : List Table} {table : Table} {row : Row} :
    allOf tables table row = true ↔ table ∈ tables :=
  List.contains_iff_mem

theorem rowsOf_iff {tables : List Table} {xid : Int} {table : Table} {row : Row} :
    rowsOf tables xid table row = true ↔ table ∈ tables ∧ xidOf row = .int xid := by
  simp only [rowsOf, Bool.and_eq_true, ofXid_iff, List.contains_iff_mem]

/-- The tables with a context id in every index. -/
def contextTables : List Table :=
  [.dxLimit, .init, .mount, .nxAddr, .nxBroadcast, .restart, .vxBcaps, .vxCcaps, .vxCpuset,
    .vxFlags, .vxLimit, .vxSched, .vxUname, .xidGidMap, .xidUidMap]

theorem xidOf_eq_of_conflict {table : Table} (mem : table ∈ contextTables) {left right : Row}
    (clash : vxdbSchema.conflict table left right = true) : xidOf left = xidOf right := by
  have indexed : contextTables.all fun table =>
      table.columns.idxOf (cstr "xid") = 0 &&
        table.unique.all fun index => index.contains (cstr "xid") := by decide
  have known := List.all_eq_true.mp indexed table mem
  simp only [Bool.and_eq_true, decide_eq_true_eq, List.all_eq_true,
    List.contains_iff_mem] at known
  obtain ⟨index, unique, equal⟩ := vxdbSchema.conflict_iff.mp clash
  have same := Value.eq_of_same (equal _ (known.2 index unique))
  have first (row : Row) : vxdbSchema.cell table row (cstr "xid") = xidOf row :=
    congrArg (row.getD · .null) known.1
  rwa [first, first] at same

/-- A change touches all rows of its table at most. -/
theorem stays_allOf {tables : List Table} {change : Change} (mem : change.table ∈ tables) :
    change.Stays (allOf tables) (allOf tables) := by
  have all (row : Row) : allOf tables change.table row = true := allOf_iff.mpr mem
  cases change with
  | insert table row => exact ⟨all row, all row⟩
  | replace table row => exact ⟨all row, all row, fun other _ => all other⟩
  | delete table selected => exact fun _ row _ => all row
  | update table selected assign => exact fun _ row _ => ⟨all row, all _, all _⟩

theorem stays_replace {table : Table} (mem : table ∈ contextTables) (xid : Int)
    (rest : List Value) :
    Change.Stays (rowsOf [table] xid) (rowsOf [table] xid)
      (.replace table (.int xid :: rest) : Change) := by
  have own (row : Row) (known : xidOf row = .int xid) : rowsOf [table] xid table row = true :=
    rowsOf_iff.mpr ⟨List.mem_singleton_self table, known⟩
  exact ⟨own _ rfl, own _ rfl, fun other clash => own other (xidOf_eq_of_conflict mem clash)⟩

theorem stays_delete {table : Table} {xid : Int} {selected : Vxdb → Row → Bool}
    (confined : ∀ db row, selected db row = true → ofXid xid row = true) :
    Change.Stays (rowsOf [table] xid) nowhere (.delete table selected : Change) :=
  fun db row chosen => rowsOf_iff.mpr
    ⟨List.mem_singleton_self table, ofXid_iff.mp (confined db row chosen)⟩

/-! ## Counters -/

/-- The text changes the counters at most. -/
abbrev Counts (sql : Str) : Prop :=
  Confined (allOf [.vcd]) (allOf [.vcd]) sql

theorem counts_of_read {pieces : List Piece} {change : Change}
    (closed : ∀ piece ∈ pieces, piece.Closed)
    (read : readCommands pieces = some [some (.change change)]) (table : change.table = .vcd) :
    Counts (render pieces) :=
  (runs_of_read closed read).confined fun other mem => by
    obtain rfl := List.mem_singleton.mp mem
    exact stays_allOf (List.mem_singleton.mpr table)

theorem counts_sqlRequests : Counts (render sqlRequests) :=
  counts_of_read (by simp [sqlRequests, Piece.Closed]) (by rfl) (by rfl)

theorem counts_sqlFlogins : Counts (render sqlFlogins) :=
  counts_of_read (by simp [sqlFlogins, Piece.Closed]) (by rfl) (by rfl)

theorem counts_sqlNomethod : Counts (render sqlNomethod) :=
  counts_of_read (by simp [sqlNomethod, Piece.Closed]) (by rfl) (by rfl)

theorem Counts.rows {sql : Str} (counts : Counts sql) (db : Vxdb) {table : Table}
    (ne : table ≠ .vcd) : (execText db sql).1.rows table = db.rows table :=
  (counts.effect db).rows_eq fun row => by simpa [allOf] using ne

/-! ## Configuration -/

/-- The statement, for any context id, writes rows of that context to one table. -/
def Writes (table : Table) (sql : Int → List Piece) : Prop :=
  ∀ xid, Confined (rowsOf [table] (int32 xid)) (rowsOf [table] (int32 xid)) (render (sql xid))

/-- What a statement does to the rows of a context in a table: it puts a row in place of those
that are in conflict with it, or removes the rows with a value in a column, or all of them. -/
inductive Setting where
  | put (table : Table) (rest : List Value)
  | remove (table : Table) (key : Str) (value : Value)
  | clear (table : Table)

namespace Setting

def table : Setting → Table
  | .put table _ | .remove table _ _ | .clear table => table

def change : Setting → Int → Change
  | .put table rest, xid => .replace table (.int xid :: rest)
  | .remove table key value, xid =>
      .delete table fun _ row => ofXid xid row && (table.cell row key).same value
  | .clear table, xid => .delete table fun _ => ofXid xid

theorem stays {setting : Setting} (mem : setting.table ∈ contextTables) (xid : Int) :
    (setting.change xid).Stays (rowsOf [setting.table] xid) (rowsOf [setting.table] xid) := by
  cases setting with
  | put table rest => exact stays_replace mem xid rest
  | remove table key value =>
      exact stays_delete fun _ _ chosen => (Bool.and_eq_true_iff.mp chosen).1
  | clear table => exact stays_delete fun _ _ chosen => chosen

end Setting

/-- The statement, for any context id, makes one change. -/
def Sets (sql : Int → List Piece) (setting : Setting) : Prop :=
  ∀ xid, Runs (render (sql xid)) [setting.change (int32 xid)]

theorem Sets.of_read {sql : Int → List Piece} {setting : Setting}
    (closed : ∀ xid, ∀ piece ∈ sql xid, piece.Closed)
    (read : ∀ xid, readCommands (sql xid) = some [some (.change (setting.change (int32 xid)))]) :
    Sets sql setting :=
  fun xid => runs_of_read (closed xid) (read xid)

theorem Sets.writes {sql : Int → List Piece} {setting : Setting} (sets : Sets sql setting)
    (mem : setting.table ∈ contextTables) : Writes setting.table sql := by
  intro xid
  refine (sets xid).confined fun change listed => ?_
  obtain rfl := List.mem_singleton.mp listed
  exact Setting.stays mem (int32 xid)

/-- The value a string argument has as a literal. -/
def literal (text : Str) : Value :=
  .str ((unquote text).getD text)

/-- Every quote in the text is doubled, so it stays inside a literal. -/
def QuoteClosed (text : Str) : Prop :=
  (unquote text).isSome

theorem closed_of_quoteFree {text : Str} (free : QuoteFree text) : QuoteClosed text := by
  rw [QuoteClosed, unquote_of_quoteFree free]
  rfl

section Configuration

variable {text : Str}

/-- The tables of configuration. -/
def settingTables : List Table :=
  [.dxLimit, .mount, .nxAddr, .nxBroadcast, .vxBcaps, .vxCcaps, .vxCpuset, .vxFlags, .vxLimit,
    .vxSched, .vxUname]

theorem sets_sqlRemove {table : Table} (mem : table ∈ settingTables) :
    Sets (sqlRemove table) (.clear table) := by
  refine .of_read ?_ ?_
  · simp [sqlRemove, xidPiece, Piece.Closed]
  · intro xid
    simp only [settingTables, List.mem_cons, List.not_mem_nil, or_false] at mem
    rcases mem with rfl | rfl | rfl | rfl | rfl | rfl | rfl | rfl | rfl | rfl | rfl <;> rfl

/-- The tables whose rows can be removed by a key, with the key. -/
def keyColumns : List (Table × Str) :=
  [(.mount, cstr "dst"), (.nxAddr, cstr "addr"), (.vxBcaps, cstr "bcap"),
    (.vxCcaps, cstr "ccap"), (.vxFlags, cstr "flag"), (.vxLimit, cstr "type"),
    (.vxUname, cstr "type")]

theorem sets_sqlRemoveKey {table : Table} {key : Str} (mem : (table, key) ∈ keyColumns)
    (closed : QuoteClosed text) :
    Sets (fun xid => sqlRemoveKey table key xid text) (.remove table key (literal text)) := by
  refine .of_read (fun _ => ?_) ?_
  · simpa [sqlRemoveKey, xidPiece, Piece.Closed, QuoteClosed] using closed
  · intro xid
    simp only [keyColumns, List.mem_cons, List.not_mem_nil, or_false, Prod.mk.injEq] at mem
    rcases mem with ⟨rfl, rfl⟩ | ⟨rfl, rfl⟩ | ⟨rfl, rfl⟩ | ⟨rfl, rfl⟩ | ⟨rfl, rfl⟩ |
      ⟨rfl, rfl⟩ | ⟨rfl, rfl⟩ <;> rfl

/-- The tables a name can be added to, with the column of the name. -/
def nameColumns : List (Table × Str) :=
  [(.nxBroadcast, cstr "broadcast"), (.vxBcaps, cstr "bcap"), (.vxCcaps, cstr "ccap"),
    (.vxFlags, cstr "flag")]

theorem sets_sqlAdd {table : Table} {key : Str} (mem : (table, key) ∈ nameColumns)
    (closed : QuoteClosed text) : Sets (sqlAdd table key text) (.put table [literal text]) := by
  simp only [nameColumns, List.mem_cons, List.not_mem_nil, or_false, Prod.mk.injEq] at mem
  refine .of_read (fun _ => ?_) ?_
  · simpa [sqlAdd, xidPiece, Piece.Closed, QuoteClosed] using closed
  · intro xid
    rcases mem with ⟨rfl, rfl⟩ | ⟨rfl, rfl⟩ | ⟨rfl, rfl⟩ | ⟨rfl, rfl⟩ <;> rfl

theorem sets_sqlDxLimitSet (space inodes reserved : Int) :
    Sets (sqlDxLimitSet space inodes reserved)
      (.put .dxLimit [.str (decimal space), .str (decimal inodes), .int reserved]) :=
  .of_read (fun _ => by simp [sqlDxLimitSet, xidPiece, Piece.Closed]) fun _ => by rfl

theorem sets_sqlInitSet {init halt reboot : Str} (timeout : Int)
    (initClosed : QuoteClosed init) (haltClosed : QuoteClosed halt)
    (rebootClosed : QuoteClosed reboot) :
    Sets (sqlInitSet init halt reboot timeout)
      (.put .init [literal init, literal halt, literal reboot, .int timeout]) := by
  refine .of_read (fun _ => ?_) fun _ => by rfl
  simpa [sqlInitSet, xidPiece, Piece.Closed, QuoteClosed] using
    ⟨initClosed, haltClosed, rebootClosed⟩

theorem sets_sqlMountSet {src dst type opts : Str} (srcClosed : QuoteClosed src)
    (dstClosed : QuoteClosed dst) (typeClosed : QuoteClosed type)
    (optsClosed : QuoteClosed opts) : Sets (sqlMountSet src dst type opts)
      (.put .mount [literal src, literal dst, literal type, literal opts]) := by
  refine .of_read (fun _ => ?_) fun _ => by rfl
  simpa [sqlMountSet, xidPiece, Piece.Closed, QuoteClosed] using
    ⟨srcClosed, dstClosed, typeClosed, optsClosed⟩

theorem sets_sqlNxAddrSet {addr netmask : Str} (addrClosed : QuoteClosed addr)
    (netmaskClosed : QuoteClosed netmask) : Sets (sqlNxAddrSet addr netmask)
      (.put .nxAddr [literal addr, literal netmask]) := by
  refine .of_read (fun _ => ?_) fun _ => by rfl
  simpa [sqlNxAddrSet, xidPiece, Piece.Closed, QuoteClosed] using ⟨addrClosed, netmaskClosed⟩

theorem sets_sqlVxCpusetSet {cpus mems : Str} (virtualize : Int)
    (cpusClosed : QuoteClosed cpus) (memsClosed : QuoteClosed mems) :
    Sets (sqlVxCpusetSet cpus mems virtualize)
      (.put .vxCpuset [literal cpus, literal mems, .int virtualize]) := by
  refine .of_read (fun _ => ?_) fun _ => by rfl
  simpa [sqlVxCpusetSet, xidPiece, Piece.Closed, QuoteClosed] using ⟨cpusClosed, memsClosed⟩

theorem sets_sqlVxSchedSet
    (fillrate interval fillrate2 interval2 tokensmin tokensmax cpuid : Int) :
    Sets (sqlVxSchedSet fillrate interval fillrate2 interval2 tokensmin tokensmax cpuid)
      (.put .vxSched [.int cpuid, .int fillrate, .int fillrate2, .int interval, .int interval2,
        .int tokensmin, .int tokensmax]) :=
  .of_read (fun _ => by simp [sqlVxSchedSet, xidPiece, Piece.Closed]) fun _ => by rfl

theorem sets_sqlVxSchedRemoveCpu (cpuid : Int) :
    Sets (sqlVxSchedRemoveCpu cpuid) (.remove .vxSched (cstr "cpuid") (.int cpuid)) :=
  .of_read (fun _ => by simp [sqlVxSchedRemoveCpu, xidPiece, Piece.Closed]) fun _ => by rfl

theorem sets_sqlVxLimitSet {type : Str} (soft max : Int) (closed : QuoteClosed type) :
    Sets (sqlVxLimitSet type soft max)
      (.put .vxLimit [literal type, .str (decimal soft), .str (decimal max)]) := by
  refine .of_read (fun _ => ?_) fun _ => by rfl
  simpa [sqlVxLimitSet, xidPiece, Piece.Closed, QuoteClosed] using closed

theorem sets_sqlVxUnameSet {type value : Str} (typeClosed : QuoteClosed type)
    (valueClosed : QuoteClosed value) :
    Sets (sqlVxUnameSet type value) (.put .vxUname [literal type, literal value]) := by
  refine .of_read (fun _ => ?_) fun _ => by rfl
  simpa [sqlVxUnameSet, xidPiece, Piece.Closed, QuoteClosed] using ⟨typeClosed, valueClosed⟩

theorem sets_sqlRestartInsert : Sets sqlRestartInsert (.put .restart []) :=
  .of_read (fun _ => by simp [sqlRestartInsert, xidPiece, Piece.Closed]) fun _ => by rfl

theorem sets_sqlRestartDelete : Sets sqlRestartDelete (.clear .restart) :=
  .of_read (fun _ => by simp [sqlRestartDelete, xidPiece, Piece.Closed]) fun _ => by rfl

end Configuration

end Vcd
