import Vcd.Vxdb.Lookups

/-!
# What lookups read

The queries of the lookups in terms of the rows of a database.
-/

namespace Vcd

open Sql Process

/-- The cell of a row in a named column. -/
abbrev Table.cell (table : Table) (row : Row) (column : Str) : Value :=
  vxdbSchema.cell table row column

variable {db : Vxdb}

theorem firstRow_map (rows : List Row) (project : Row → Row) :
    firstRow (some (rows.map project)) = rows.head?.map project := by
  cases rows <;> rfl

/-- The first row a plain query reads. -/
theorem firstRow_of_parse {text : Str} (query : Select) (table : Table)
    (read : parse text = [some (.select query)]) (plain : query.Plain vxdbSchema table)
    (db : Vxdb) :
    firstRow (db.oracle text) =
      ((db.rows table).find? (query.selects db table)).map
        (query.project vxdbSchema table) := by
  rw [Vxdb.oracle, prepareText, read]
  dsimp only
  rw [plain.run db, firstRow_map, List.head?_filter]

theorem firstRow_plain {pieces : List Piece} (query : Select) (table : Table)
    (free : ∀ piece ∈ pieces, piece.Free)
    (read : readPieces pieces = some [some (.select query)])
    (plain : query.Plain vxdbSchema table) (db : Vxdb) :
    firstRow (db.oracle (render pieces)) =
      ((db.rows table).find? (query.selects db table)).map
        (query.project vxdbSchema table) :=
  firstRow_of_parse query table (parse_render_of_free free read) plain db

/-! ## Users and rights -/

/-- Some user has this name and this hash of a password. -/
def Authenticates (db : Vxdb) (user hash : Str) : Prop :=
  ∃ row ∈ db.rows Table.user, Table.user.cell row (cstr "name") = .str user ∧
    Table.user.cell row (cstr "password") = .str hash

/-- Some user has this name and is an administrator. -/
def IsAdmin (db : Vxdb) (user : Str) : Prop :=
  ∃ row ∈ db.rows Table.user, Table.user.cell row (cstr "name") = .str user ∧
    Table.user.cell row (cstr "admin") = .int 1

/-- A user id has a capability. -/
def Granted (db : Vxdb) (uid : Int) (cap : Str) : Prop :=
  ∃ row ∈ db.rows Table.userCaps, Table.userCaps.cell row (cstr "uid") = .int uid ∧
    Table.userCaps.cell row (cstr "cap") = .str cap

/-- A user id owns a context id. -/
def Owns (db : Vxdb) (uid xid : Int) : Prop :=
  ∃ row ∈ db.rows Table.xidUidMap, Table.xidUidMap.cell row (cstr "uid") = .int uid ∧
    Table.xidUidMap.cell row (cstr "xid") = .int (int32 xid)

/-- The value of a text inside a literal. -/
def valueOf (text : Str) : Str :=
  (unquote text).getD text

theorem valueOf_quoteFree {text : Str} (free : QuoteFree text) : valueOf text = text := by
  unfold valueOf
  rw [unquote_of_quoteFree free]
  rfl

/-- The login query looks for the value the pasted hash has inside its literal. -/
theorem firstRow_sqlIsvalid_closed {user hash : Str} (userFree : QuoteFree user)
    (closed : (unquote hash).isSome) :
    (firstRow (db.oracle (render (sqlIsvalid user hash)))).isSome ↔
      Authenticates db user (valueOf hash) := by
  have read : parse (render (sqlIsvalid user hash)) = [some (.select {
      projections := [.column none (cstr "uid")], table := cstr "user", join := none
      condition := some (.and (.eq (.column none (cstr "name")) (.str (valueOf user)))
        (.eq (.column none (cstr "password")) (.str (valueOf hash))))
      order := none, limit := none })] := by
    refine parse_render ?_ (by rfl)
    simpa [sqlIsvalid, Piece.Closed, unquote_of_quoteFree userFree] using closed
  rw [valueOf_quoteFree userFree] at read
  rw [firstRow_of_parse _ Table.user read ⟨by rfl, by rfl, by rfl, by rfl, by rfl, by rfl⟩ db]
  simp [Select.selects, Expr.holds, Expr.value, Authenticates, Schema.env]

theorem firstRow_sqlIsvalid {user hash : Str} (userFree : QuoteFree user)
    (hashFree : QuoteFree hash) :
    (firstRow (db.oracle (render (sqlIsvalid user hash)))).isSome ↔
      Authenticates db user hash := by
  rw [firstRow_sqlIsvalid_closed userFree (by rw [unquote_of_quoteFree hashFree]; rfl),
    valueOf_quoteFree hashFree]

theorem firstRow_sqlIsadmin {user : Str} (free : QuoteFree user) :
    (firstRow (db.oracle (render (sqlIsadmin user)))).isSome ↔ IsAdmin db user := by
  rw [firstRow_plain
    {
      projections := [.column none (cstr "uid")], table := cstr "user", join := none
      condition := some (.and (.eq (.column none (cstr "name")) (.str user))
        (.eq (.column none (cstr "admin")) (.int 1)))
      order := none, limit := none }
    Table.user
    (by simp [sqlIsadmin, Piece.Free, free]) (by rfl)
    ⟨by rfl, by rfl, by rfl, by rfl, by rfl, by rfl⟩ db]
  simp [Select.selects, Expr.holds, Expr.value, IsAdmin, Schema.env]

theorem firstRow_sqlHascapability (uid : Int) {cap : Str} (free : QuoteFree cap) :
    (firstRow (db.oracle (render (sqlHascapability uid cap)))).isSome ↔
      Granted db uid cap := by
  rw [firstRow_plain
    {
      projections := [.column none (cstr "uid")], table := cstr "user_caps", join := none
      condition := some (.and (.eq (.column none (cstr "uid")) (.int uid))
        (.eq (.column none (cstr "cap")) (.str cap)))
      order := none, limit := none }
    Table.userCaps
    (by simp [sqlHascapability, Piece.Free, free]) (by rfl)
    ⟨by rfl, by rfl, by rfl, by rfl, by rfl, by rfl⟩ db]
  simp [Select.selects, Expr.holds, Expr.value, Granted, Schema.env]

theorem firstRow_sqlIsowner (uid xid : Int) :
    (firstRow (db.oracle (render (sqlIsowner uid xid)))).isSome ↔ Owns db uid xid := by
  rw [firstRow_plain
    {
      projections := [.column none (cstr "uid")], table := cstr "xid_uid_map", join := none
      condition := some (.and (.eq (.column none (cstr "uid")) (.int uid))
        (.eq (.column none (cstr "xid")) (.int (int32 xid))))
      order := none, limit := none }
    Table.xidUidMap
    (by simp [sqlIsowner, xidPiece, Piece.Free]) (by rfl)
    ⟨by rfl, by rfl, by rfl, by rfl, by rfl, by rfl⟩ db]
  simp [Select.selects, Expr.holds, Expr.value, Owns, Schema.env]

/-- The columns of an index tell the rows of a table apart. -/
theorem eq_of_index {table : Table} {index : List Str} (unique : index ∈ table.unique)
    {left right : Row} (leftMem : left ∈ db.rows table) (rightMem : right ∈ db.rows table)
    (equal : ∀ column ∈ index,
      (table.cell left column).same (table.cell right column) = true) :
    left = right :=
  db.eq_of_conflict table leftMem rightMem ((vxdbSchema.conflict_iff).mpr
    ⟨index, unique, equal⟩)

/-! ## Ids, names and directories -/

/-- The query for one column of the rows with a certain value in another one. -/
def columnQuery (table : Table) (out key : Str) (value : Expr) : Select where
  projections := [.column none out]
  table := table.name
  join := none
  condition := some (.eq (.column none key) value)
  order := none
  limit := none

/-- The first row a query on a string column reads. -/
theorem firstRow_text {pieces : List Piece} {table : Table} {out key text : Str}
    (free : ∀ piece ∈ pieces, piece.Free)
    (read : readPieces pieces = some [some (.select (columnQuery table out key (.str text)))])
    (plain : (columnQuery table out key (.str text)).Plain vxdbSchema table)
    (db : Vxdb) :
    firstRow (db.oracle (render pieces)) =
      ((db.rows table).find? fun row => (table.cell row key).same (.str text)).map
        fun row => [table.cell row out] := by
  rw [firstRow_plain _ table free read plain]
  rfl

/-- The first row a query on an integer column reads. -/
theorem firstRow_int {pieces : List Piece} {table : Table} {out key : Str} {number : Int}
    (free : ∀ piece ∈ pieces, piece.Free)
    (read : readPieces pieces = some [some (.select (columnQuery table out key (.int number)))])
    (plain : (columnQuery table out key (.int number)).Plain vxdbSchema table)
    (db : Vxdb) :
    firstRow (db.oracle (render pieces)) =
      ((db.rows table).find? fun row => (table.cell row key).same (.int number)).map
        fun row => [table.cell row out] := by
  rw [firstRow_plain _ table free read plain]
  rfl

theorem firstRow_sqlGetuid {user : Str} (free : QuoteFree user) :
    firstRow (db.oracle (render (sqlGetuid user))) =
      ((db.rows Table.user).find? fun row =>
        (Table.user.cell row (cstr "name")).same (.str user)).map
        fun row => [Table.user.cell row (cstr "uid")] :=
  firstRow_text (by simp [sqlGetuid, Piece.Free, free]) (by rfl)
    ⟨by rfl, by rfl, by rfl, by rfl, by rfl, by rfl⟩ db

theorem firstRow_sqlGetxid {name : Str} (free : QuoteFree name) :
    firstRow (db.oracle (render (sqlGetxid name))) =
      ((db.rows Table.xidNameMap).find? fun row =>
        (Table.xidNameMap.cell row (cstr "name")).same (.str name)).map
        fun row => [Table.xidNameMap.cell row (cstr "xid")] :=
  firstRow_text (by simp [sqlGetxid, Piece.Free, free]) (by rfl)
    ⟨by rfl, by rfl, by rfl, by rfl, by rfl, by rfl⟩ db

theorem firstRow_sqlGetgid {group : Str} (free : QuoteFree group) :
    firstRow (db.oracle (render (sqlGetgid group))) =
      ((db.rows Table.groups).find? fun row =>
        (Table.groups.cell row (cstr "name")).same (.str group)).map
        fun row => [Table.groups.cell row (cstr "gid")] :=
  firstRow_text (by simp [sqlGetgid, Piece.Free, free]) (by rfl)
    ⟨by rfl, by rfl, by rfl, by rfl, by rfl, by rfl⟩ db

theorem firstRow_sqlGetname (xid : Int) :
    firstRow (db.oracle (render (sqlGetname xid))) =
      ((db.rows Table.xidNameMap).find? fun row =>
        (Table.xidNameMap.cell row (cstr "xid")).same (.int (int32 xid))).map
        fun row => [Table.xidNameMap.cell row (cstr "name")] :=
  firstRow_int (by simp [sqlGetname, xidPiece, Piece.Free]) (by rfl)
    ⟨by rfl, by rfl, by rfl, by rfl, by rfl, by rfl⟩ db

theorem firstRow_sqlGetvdir (xid : Int) :
    firstRow (db.oracle (render (sqlGetvdir xid))) =
      ((db.rows Table.vdir).find? fun row =>
        (Table.vdir.cell row (cstr "xid")).same (.int (int32 xid))).map
        fun row => [Table.vdir.cell row (cstr "vdir")] :=
  firstRow_int (by simp [sqlGetvdir, xidPiece, Piece.Free]) (by rfl)
    ⟨by rfl, by rfl, by rfl, by rfl, by rfl, by rfl⟩ db

/-- A row of a table with a unique text column is the first one with its text. -/
theorem find_text {table : Table} {key text : Str} (unique : [key] ∈ table.unique)
    {row : Row} (mem : row ∈ db.rows table) (known : table.cell row key = .str text) :
    (db.rows table).find? (fun row => (table.cell row key).same (.str text)) = some row := by
  have exists_found : ((db.rows table).find? fun row =>
      (table.cell row key).same (.str text)).isSome :=
    List.find?_isSome.mpr ⟨row, mem, (Value.same_str_right _ _).mpr known⟩
  obtain ⟨found, equal⟩ := Option.isSome_iff_exists.mp exists_found
  have foundKey := List.find?_some equal
  rw [equal, eq_of_index unique (List.mem_of_find?_eq_some equal) mem fun column listed => by
    obtain rfl := List.mem_singleton.mp listed
    rwa [known]]

theorem uidIn_of_mem {user : Str} (valid : validateUsername user = true) {row : Row}
    (mem : row ∈ db.rows Table.user)
    (known : Table.user.cell row (cstr "name") = .str user) :
    uidIn db.oracle user = vxdbColumnInt [Table.user.cell row (cstr "uid")] 0 := by
  rw [uidIn, valid, firstRow_sqlGetuid (quoteFree_of_validateUsername valid),
    find_text (by decide) mem known]
  rfl

/-- A user that is found has a row. -/
theorem mem_of_uidIn {user : Str} (found : uidIn db.oracle user ≠ 0) :
    validateUsername user = true ∧ ∃ row ∈ db.rows Table.user,
      Table.user.cell row (cstr "name") = .str user := by
  cases valid : validateUsername user with
  | false => simp [uidIn, valid] at found
  | true =>
      refine ⟨rfl, ?_⟩
      cases known : (db.rows Table.user).find? fun row =>
          (Table.user.cell row (cstr "name")).same (.str user) with
      | none =>
          rw [uidIn, valid, firstRow_sqlGetuid (quoteFree_of_validateUsername valid), known]
            at found
          simp at found
      | some row =>
          have named := List.find?_some known
          exact ⟨row, List.mem_of_find?_eq_some known, (Value.same_str_right _ _).mp named⟩

theorem xidIn_of_mem {name : Str} (valid : validateName name = true) {row : Row}
    (mem : row ∈ db.rows Table.xidNameMap)
    (known : Table.xidNameMap.cell row (cstr "name") = .str name) :
    xidIn db.oracle name = vxdbColumnUint32 [Table.xidNameMap.cell row (cstr "xid")] 0 := by
  rw [xidIn, valid, firstRow_sqlGetxid (quoteFree_of_validateName valid),
    find_text (by decide) mem known]
  rfl

/-- A name that denotes a context id has a row. -/
theorem mem_of_xidIn {name : Str} (found : xidIn db.oracle name ≠ 0) :
    validateName name = true ∧ ∃ row ∈ db.rows Table.xidNameMap,
      Table.xidNameMap.cell row (cstr "name") = .str name ∧
      vxdbColumnUint32 [Table.xidNameMap.cell row (cstr "xid")] 0 = xidIn db.oracle name := by
  cases valid : validateName name with
  | false => simp [xidIn, valid] at found
  | true =>
      refine ⟨rfl, ?_⟩
      cases known : (db.rows Table.xidNameMap).find? fun row =>
          (Table.xidNameMap.cell row (cstr "name")).same (.str name) with
      | none =>
          rw [xidIn, valid, firstRow_sqlGetxid (quoteFree_of_validateName valid), known]
            at found
          simp at found
      | some row =>
          have mem := List.mem_of_find?_eq_some known
          have named := List.find?_some known
          rw [Value.same_str_right] at named
          exact ⟨row, mem, named, (xidIn_of_mem valid mem named).symm⟩

/-! ## Lookups depend on a few tables -/

section SameRows

variable {next : Vxdb}

theorem xidIn_of_rows (same : next.rows Table.xidNameMap = db.rows Table.xidNameMap)
    (name : Str) : xidIn next.oracle name = xidIn db.oracle name := by
  unfold xidIn
  cases valid : validateName name with
  | false => rfl
  | true =>
      have free := quoteFree_of_validateName valid
      rw [firstRow_sqlGetxid free, firstRow_sqlGetxid free, same]

theorem uidIn_of_rows (same : next.rows Table.user = db.rows Table.user) (user : Str) :
    uidIn next.oracle user = uidIn db.oracle user := by
  unfold uidIn
  cases valid : validateUsername user with
  | false => rfl
  | true =>
      have free := quoteFree_of_validateUsername valid
      rw [firstRow_sqlGetuid free, firstRow_sqlGetuid free, same]

theorem adminIn_of_rows (same : next.rows Table.user = db.rows Table.user) (user : Str) :
    adminIn next.oracle user = adminIn db.oracle user := by
  unfold adminIn
  cases valid : validateUsername user with
  | false => rfl
  | true =>
      have free := quoteFree_of_validateUsername valid
      rw [Bool.eq_iff_iff, Bool.and_eq_true, Bool.and_eq_true, firstRow_sqlIsadmin free,
        firstRow_sqlIsadmin free, IsAdmin, IsAdmin, same]

theorem vdirIn_of_rows (names : next.rows Table.xidNameMap = db.rows Table.xidNameMap)
    (vdirs : next.rows Table.vdir = db.rows Table.vdir) (host : Host) (name : Str) :
    vdirIn next.oracle host name = vdirIn db.oracle host name := by
  simp only [vdirIn, xidIn_of_rows names, firstRow_sqlGetvdir, vdirs]

theorem ownerIn_of_rows (users : next.rows Table.user = db.rows Table.user)
    (names : next.rows Table.xidNameMap = db.rows Table.xidNameMap)
    (owners : next.rows Table.xidUidMap = db.rows Table.xidUidMap) (user name : Str) :
    ownerIn next.oracle user name = ownerIn db.oracle user name := by
  unfold ownerIn
  rw [uidIn_of_rows users, adminIn_of_rows users, xidIn_of_rows names]
  congr 3
  rw [Bool.eq_iff_iff, firstRow_sqlIsowner, firstRow_sqlIsowner, Owns, Owns, owners]

theorem granted_of_rows (same : next.rows Table.userCaps = db.rows Table.userCaps) (uid : Int)
    (cap : Str) : Granted next uid cap ↔ Granted db uid cap := by
  unfold Granted
  rw [same]

end SameRows

end Vcd
