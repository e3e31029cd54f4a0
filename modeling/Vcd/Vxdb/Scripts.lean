import Vcd.Vxdb.Statements

/-!
# What scripts do

The statements that change rights and names, and the scripts of `vx.create` and
`vx.remove`: a list of deletions, and for `vx.create` a list of insertions after it.
-/

namespace Vcd

open Sql Process

/-! ## Rights -/

/-- The tables of users, their capabilities and groups. -/
def userTables : List Table :=
  [.user, .userCaps, .groups]

/-- The tables that relate virtual servers to owners and groups. -/
def relationTables : List Table :=
  [.xidUidMap, .xidGidMap]

/-- The rows a change of rights may add: users, capabilities and groups, and relations of
one virtual server. -/
def granted (xid : Option Int) : Region vxdbSchema :=
  fun table row => allOf userTables table row ||
    xid.any fun xid => rowsOf relationTables xid table row

/-- Select the rows of a user or a group by the id in a column. -/
def byId (column : Str) (id : Int) (table : Table) (row : Row) : Bool :=
  (table.cell row column).same (.int id)

/-- The rewriting of a user's row with a new value in one column. -/
def setUser (column : Str) (value : Expr) : Vxdb → Row → Row :=
  vxdbSchema.assign Table.user [(column, value)]

/-- The statements that change rights, with their arguments. -/
inductive RightsWrite where
  | capsAdd (uid : Int) (cap : Str)
  | capsRemove (uid : Int) (cap : Option Str)
  | userRemove (uid : Int)
  | userInsert (uid : Int) (user hash : Str) (admin : Int)
  | userAdmin (uid admin : Int)
  | userPassword (uid : Int) (hash : Str)
  | ownerAdd (xid uid : Int)
  | ownerRemove (xid uid : Int)
  | groupInsert (gid : Int) (group : Str)
  | memberInsert (xid gid : Int)
  | memberRemove (xid gid : Int)
  | groupRemove (gid : Int)

namespace RightsWrite

def sql : RightsWrite → List Piece
  | .capsAdd uid cap => sqlUserCapsAdd uid cap
  | .capsRemove uid cap => sqlUserCapsRemove uid cap
  | .userRemove uid => sqlUserRemove uid
  | .userInsert uid user hash admin => sqlUserInsert uid user hash admin
  | .userAdmin uid admin => sqlUserAdmin uid admin
  | .userPassword uid hash => sqlUserPassword uid hash
  | .ownerAdd xid uid => sqlOwnerAdd xid uid
  | .ownerRemove xid uid => sqlOwnerRemove xid uid
  | .groupInsert gid group => sqlGroupInsert gid group
  | .memberInsert xid gid => sqlMemberInsert xid gid
  | .memberRemove xid gid => sqlMemberRemove xid gid
  | .groupRemove gid => sqlGroupRemove gid

/-- The strings a statement pastes. -/
def strings : RightsWrite → List Str
  | .capsAdd _ cap => [cap]
  | .capsRemove _ cap => cap.toList
  | .userInsert _ user hash _ => [user, hash]
  | .userPassword _ hash => [hash]
  | .groupInsert _ group => [group]
  | _ => []

/-- No string a statement pastes contains a quote. -/
def Free (write : RightsWrite) : Prop :=
  ∀ text ∈ write.strings, QuoteFree text

/-- What the statement does. -/
def changes : RightsWrite → List Change
  | .capsAdd uid cap => [.replace Table.userCaps [.int uid, .str cap]]
  | .capsRemove uid none => [.delete Table.userCaps fun _ => byId (cstr "uid") uid .userCaps]
  | .capsRemove uid (some cap) => [.delete Table.userCaps fun _ row =>
      byId (cstr "uid") uid .userCaps row &&
        (Table.userCaps.cell row (cstr "cap")).same (.str cap)]
  | .userRemove uid => [Table.xidUidMap, .userCaps, .user].map fun table =>
      .delete table fun _ => byId (cstr "uid") uid table
  | .userInsert uid user hash admin =>
      [.insert Table.user [.int uid, .str user, .str hash, .int admin]]
  | .userAdmin uid admin => [.update Table.user (fun _ => byId (cstr "uid") uid .user)
      (setUser (cstr "admin") (.int admin))]
  | .userPassword uid hash => [.update Table.user (fun _ => byId (cstr "uid") uid .user)
      (setUser (cstr "password") (.str hash))]
  | .ownerAdd xid uid => [.replace Table.xidUidMap [.int (int32 xid), .int uid]]
  | .ownerRemove xid uid => [.delete Table.xidUidMap fun _ row =>
      ofXid (int32 xid) row && (uid = 0 || byId (cstr "uid") uid .xidUidMap row)]
  | .groupInsert gid group => [.insert Table.groups [.int gid, .str group]]
  | .memberInsert xid gid => [.insert Table.xidGidMap [.int (int32 xid), .int gid]]
  | .memberRemove xid gid => [.delete Table.xidGidMap fun _ row =>
      ofXid (int32 xid) row && byId (cstr "gid") gid .xidGidMap row]
  | .groupRemove gid => [Table.xidGidMap, .groups].map fun table =>
      .delete table fun _ => byId (cstr "gid") gid table

/-- The virtual server a statement relates to somebody. -/
def related : RightsWrite → Option Int
  | .ownerAdd xid _ | .memberInsert xid _ => some xid
  | _ => none

theorem closed_of_free {pieces : List Piece} {strings : List Str}
    (free : ∀ text ∈ strings, QuoteFree text)
    (known : ∀ text, Piece.str text ∈ pieces → text ∈ strings) :
    (∀ piece ∈ pieces, piece.Closed) ∧ pieces.map Piece.unquoted = pieces := by
  constructor
  · intro piece mem
    cases piece with
    | str text => exact closed_of_quoteFree (free text (known text mem))
    | _ => trivial
  · refine (List.map_congr_left fun piece mem => ?_).trans (List.map_id pieces)
    cases piece with
    | str text =>
        change Piece.str ((unquote text).getD text) = _
        rw [unquote_of_quoteFree (free text (known text mem))]
        rfl
    | _ => rfl

/-- The statements of a write are those of its pieces. -/
theorem commands_sql {write : RightsWrite} (free : write.Free) (parsed : List (Option Command))
    (known : ∀ text, Piece.str text ∈ write.sql → text ∈ write.strings)
    (equal : (readPieces write.sql).map (resolve vxdbSchema) = some parsed) :
    commands vxdbSchema (render write.sql) = parsed := by
  obtain ⟨closed, unquoted⟩ := closed_of_free free known
  refine commands_of_read closed ?_
  rw [readCommands, unquoted, equal]

/-- Every statement does what its changes say. -/
theorem runs {write : RightsWrite} (free : write.Free) : Runs (render write.sql) write.changes := by
  have read := commands_sql free
  cases write with
  | capsAdd uid cap => exact .single (read _ (by simp [sql, sqlUserCapsAdd, strings]) (by rfl))
  | capsRemove uid cap =>
      cases cap with
      | none => exact .single (read _ (by simp [sql, sqlUserCapsRemove]) (by rfl))
      | some cap =>
          exact .single (read _ (by simp [sql, sqlUserCapsRemove, strings]) (by rfl))
  | userRemove uid => exact .transaction (read _ (by simp [sql, sqlUserRemove]) (by rfl))
  | userInsert uid user hash admin =>
      exact .single (read _ (by simp [sql, sqlUserInsert, strings]) (by rfl))
  | userAdmin uid admin => exact .single (read _ (by simp [sql, sqlUserAdmin]) (by rfl))
  | userPassword uid hash =>
      exact .single (read _ (by simp [sql, sqlUserPassword, strings]) (by rfl))
  | ownerAdd xid uid =>
      exact .single (read _ (by simp [sql, sqlOwnerAdd, xidPiece]) (by rfl))
  | ownerRemove xid uid =>
      by_cases all : uid = 0
      · subst all
        have selects : changes (.ownerRemove xid 0) =
            [.delete Table.xidUidMap fun _ => ofXid (int32 xid)] := by
          simp [changes]
        rw [selects]
        exact .single (read _ (by simp [sql, sqlOwnerRemove, xidPiece]) (by rfl))
      · have pasted : sql (.ownerRemove xid uid) =
            [.chars (cstr "DELETE FROM xid_uid_map WHERE xid = "), xidPiece xid,
              .chars (cstr " AND uid = "), .int uid] := by
          simp [sql, sqlOwnerRemove, all]
        have selects : changes (.ownerRemove xid uid) = [.delete Table.xidUidMap fun _ row =>
            ofXid (int32 xid) row && byId (cstr "uid") uid .xidUidMap row] := by
          simp [changes, all]
        rw [selects]
        refine .single (read _ (by simp [pasted, xidPiece]) ?_)
        rw [pasted]
        rfl
  | groupInsert gid group =>
      exact .single (read _ (by simp [sql, sqlGroupInsert, strings]) (by rfl))
  | memberInsert xid gid =>
      exact .single (read _ (by simp [sql, sqlMemberInsert, xidPiece]) (by rfl))
  | memberRemove xid gid =>
      exact .single (read _ (by simp [sql, sqlMemberRemove, xidPiece]) (by rfl))
  | groupRemove gid => exact .transaction (read _ (by simp [sql, sqlGroupRemove]) (by rfl))

/-- Statements about rights stay in their tables, and relate only the virtual server they
are about. -/
theorem stays (write : RightsWrite) : ∀ change ∈ write.changes,
    change.Stays (allOf (userTables ++ relationTables)) (granted (write.related.map int32)) := by
  intro change listed
  have users {table : Table} (mem : table ∈ userTables) (row : Row) :
      allOf (userTables ++ relationTables) table row = true ∧
        granted (write.related.map int32) table row = true :=
    ⟨allOf_iff.mpr (List.mem_append_left relationTables mem),
      by simp [granted, allOf_iff.mpr mem]⟩
  have touched {table : Table} (mem : table ∈ userTables ++ relationTables) (row : Row) :
      allOf (userTables ++ relationTables) table row = true :=
    allOf_iff.mpr mem
  cases write with
  | capsAdd uid cap =>
      obtain rfl := List.mem_singleton.mp listed
      have known := @users .userCaps (by decide)
      exact ⟨(known _).1, (known _).2, fun other _ => (known other).1⟩
  | capsRemove uid cap =>
      cases cap <;> obtain rfl := List.mem_singleton.mp listed <;>
        exact fun _ row _ => touched (by decide) row
  | userRemove uid =>
      obtain ⟨table, mem, rfl⟩ := List.mem_map.mp listed
      have all : ∀ table ∈ [Table.xidUidMap, .userCaps, .user],
          table ∈ userTables ++ relationTables := by decide
      exact fun _ row _ => touched (all table mem) row
  | userInsert uid user hash admin =>
      obtain rfl := List.mem_singleton.mp listed
      exact @users .user (by decide) _
  | userAdmin uid admin =>
      obtain rfl := List.mem_singleton.mp listed
      have known := @users .user (by decide)
      exact fun _ row _ => ⟨(known row).1, known _⟩
  | userPassword uid hash =>
      obtain rfl := List.mem_singleton.mp listed
      have known := @users .user (by decide)
      exact fun _ row _ => ⟨(known row).1, known _⟩
  | ownerAdd xid uid =>
      obtain rfl := List.mem_singleton.mp listed
      refine ⟨touched (by decide) _, ?_, fun other _ => touched (by decide) other⟩
      simp [granted, related, rowsOf_iff, relationTables, xidOf]
  | ownerRemove xid uid =>
      obtain rfl := List.mem_singleton.mp listed
      exact fun _ row _ => touched (by decide) row
  | groupInsert gid group =>
      obtain rfl := List.mem_singleton.mp listed
      exact @users .groups (by decide) _
  | memberInsert xid gid =>
      obtain rfl := List.mem_singleton.mp listed
      refine ⟨touched (by decide) _, ?_⟩
      simp [granted, related, rowsOf_iff, relationTables, xidOf]
  | memberRemove xid gid =>
      obtain rfl := List.mem_singleton.mp listed
      exact fun _ row _ => touched (by decide) row
  | groupRemove gid =>
      obtain ⟨table, mem, rfl⟩ := List.mem_map.mp listed
      have all : ∀ table ∈ [Table.xidGidMap, .groups],
          table ∈ userTables ++ relationTables := by decide
      exact fun _ row _ => touched (all table mem) row

end RightsWrite

/-! ## Names -/

/-- The change of the script of `vx.rename`. -/
def renameChange (newname : Str) (xid : Int) : Change :=
  .update Table.xidNameMap (fun _ => ofXid (int32 xid)) fun _ row => [xidOf row, .str newname]

theorem runs_sqlVxRename {newname : Str} (free : QuoteFree newname) (xid : Int) :
    Runs (render (sqlVxRename newname xid)) [renameChange newname xid] := by
  have pieces : (sqlVxRename newname xid).map Piece.unquoted = sqlVxRename newname xid := by
    simp [sqlVxRename, xidPiece, Piece.unquoted, unquote_of_quoteFree free]
  refine runs_of_read ?_ ?_
  · simpa [sqlVxRename, xidPiece, Piece.Closed, QuoteClosed] using closed_of_quoteFree free
  · rw [readCommands, pieces]
    rfl

/-! ## Virtual servers -/

/-- The tables both scripts delete from first, by their aligned names. -/
def alignedFirst : List (Str × Table) :=
  [(cstr "dx_limit    ", .dxLimit), (cstr "init        ", .init),
    (cstr "mount       ", .mount), (cstr "nx_addr     ", .nxAddr),
    (cstr "nx_broadcast", .nxBroadcast), (cstr "restart     ", .restart),
    (cstr "vdir        ", .vdir), (cstr "vx_bcaps    ", .vxBcaps),
    (cstr "vx_ccaps    ", .vxCcaps), (cstr "vx_flags    ", .vxFlags),
    (cstr "vx_limit    ", .vxLimit), (cstr "vx_sched    ", .vxSched),
    (cstr "vx_uname    ", .vxUname)]

/-- The tables `vx.remove` deletes from. -/
def alignedRemoved : List (Str × Table) :=
  alignedFirst ++ [(cstr "xid_gid_map ", .xidGidMap), (cstr "xid_name_map", .xidNameMap),
    (cstr "xid_uid_map ", .xidUidMap)]

/-- The tables `vx.create` deletes from. -/
def alignedCleared : List (Str × Table) :=
  alignedFirst ++ [(cstr "xid_name_map", .xidNameMap)]

/-- The change of one deletion. -/
def deleteXid (xid : Int) (table : Table) : Change :=
  .delete table fun _ => ofXid (int32 xid)

theorem isScript_sqlDeleteXid (xid : Int) {aligned : Str} {table : Table}
    (mem : (aligned, table) ∈ alignedRemoved) :
    IsScript (sqlDeleteXid aligned xid) [deleteXid xid table] := by
  refine .single [.key .delete, .key .from, .name table.name, .key .where,
    .name (cstr "xid"), .sym '=', .int (int32 xid)] ?_ (by simp) (by simp) (by rfl) ?_
  · intro next
    simp only [alignedRemoved, alignedFirst, List.cons_append, List.nil_append, List.mem_cons,
      List.not_mem_nil, or_false, Prod.mk.injEq] at mem
    rcases mem with ⟨rfl, rfl⟩ | ⟨rfl, rfl⟩ | ⟨rfl, rfl⟩ | ⟨rfl, rfl⟩ | ⟨rfl, rfl⟩ |
      ⟨rfl, rfl⟩ | ⟨rfl, rfl⟩ | ⟨rfl, rfl⟩ | ⟨rfl, rfl⟩ | ⟨rfl, rfl⟩ | ⟨rfl, rfl⟩ |
      ⟨rfl, rfl⟩ | ⟨rfl, rfl⟩ | ⟨rfl, rfl⟩ | ⟨rfl, rfl⟩ | ⟨rfl, rfl⟩ <;> rfl
  · cases table <;> first | rfl | exact absurd mem (by simp [alignedRemoved, alignedFirst])

/-- A script of deletions. -/
theorem isScript_deletes (xid : Int) {aligned : List (Str × Table)}
    (subset : aligned ⊆ alignedRemoved) :
    IsScript (aligned.flatMap fun entry => sqlDeleteXid entry.1 xid)
      ((aligned.map Prod.snd).map (deleteXid xid)) := by
  rw [List.map_map]
  exact .map fun _ mem => isScript_sqlDeleteXid xid (subset mem)

theorem free_deletes (xid : Int) (aligned : List (Str × Table)) :
    ∀ piece ∈ aligned.flatMap (fun entry => sqlDeleteXid entry.1 xid), piece.Free := by
  intro piece mem
  obtain ⟨entry, -, mem⟩ := List.mem_flatMap.mp mem
  simp only [sqlDeleteXid, xidPiece, List.mem_cons, List.not_mem_nil, or_false] at mem
  rcases mem with rfl | rfl | rfl | rfl | rfl <;> trivial

theorem sqlVxRemove_eq (xid : Int) :
    sqlVxRemove xid = .chars (cstr "BEGIN EXCLUSIVE TRANSACTION;") ::
      alignedRemoved.flatMap (fun entry => sqlDeleteXid entry.1 xid) ++
        [.chars (cstr "COMMIT TRANSACTION;")] := by
  simp only [sqlVxRemove, alignedRemoved, alignedFirst, List.flatMap_cons, List.flatMap_nil,
    List.append_nil, List.append_assoc, List.cons_append, List.nil_append]

theorem sqlClear_eq (xid : Int) :
    sqlClear xid = alignedCleared.flatMap fun entry => sqlDeleteXid entry.1 xid := by
  simp only [sqlClear, alignedCleared, alignedFirst, List.flatMap_cons, List.flatMap_nil,
    List.append_nil, List.append_assoc, List.cons_append, List.nil_append]

theorem runs_sqlVxRemove (xid : Int) :
    Runs (render (sqlVxRemove xid)) (removedTables.map (deleteXid xid)) := by
  rw [sqlVxRemove_eq]
  exact (isScript_deletes xid (List.Subset.refl alignedRemoved)).runs
    (free_deletes xid alignedRemoved)

/-! ## The script of vx.create -/

/-- The rows the script inserts, in order. -/
def Entries.rows (entries : Entries) (xid : Int) : List (Table × Row) :=
  (Table.init, [.int (int32 xid), .str entries.init, .str entries.halt, .str entries.reboot,
      .int entries.timeout]) ::
    entries.mounts.map (fun (src, dst, type, opts) =>
      (.mount, [.int (int32 xid), .str src, .str dst, .str type, .str opts])) ++
    entries.bcaps.map (fun bcap => (.vxBcaps, [.int (int32 xid), .str bcap])) ++
    entries.ccaps.map (fun ccap => (.vxCcaps, [.int (int32 xid), .str ccap])) ++
    entries.flags.map (fun flag => (.vxFlags, [.int (int32 xid), .str flag])) ++
    [(.vdir, [.int (int32 xid), .str entries.vdir]),
      (.xidNameMap, [.int (int32 xid), .str entries.name])]

def insertRow (entry : Table × Row) : Change :=
  .insert entry.1 entry.2

/-- The changes of the script. -/
def createChanges (xid : Int) (entries : Entries) : List Change :=
  clearedTables.map (deleteXid xid) ++ (entries.rows xid).map insertRow

/-- All strings the script pastes. -/
def Entries.strings (entries : Entries) : List Str :=
  [entries.init, entries.halt, entries.reboot] ++
    entries.mounts.flatMap (fun (src, dst, type, opts) => [src, dst, type, opts]) ++
    entries.bcaps ++ entries.ccaps ++ entries.flags ++ [entries.vdir, entries.name]

theorem isScript_sqlInsertInit (xid : Int) (init halt reboot : Str) (timeout : Int) :
    IsScript (sqlInsertInit xid init halt reboot timeout)
      [insertRow (.init, [.int (int32 xid), .str init, .str halt, .str reboot,
        .int timeout])] :=
  .single [.key .insert, .key .into, .name (cstr "init"), .sym '(', .name (cstr "xid"),
      .sym ',', .name (cstr "init"), .sym ',', .name (cstr "halt"), .sym ',',
      .name (cstr "reboot"), .sym ',', .name (cstr "timeout"), .sym ')', .key .values,
      .sym '(', .int (int32 xid), .sym ',', .str init, .sym ',', .str halt, .sym ',',
      .str reboot, .sym ',', .int timeout, .sym ')']
    (fun _ => by rfl) (by simp) (by simp) (by rfl) (by rfl)

theorem isScript_sqlInsertMount (xid : Int) (src dst type opts : Str) :
    IsScript (sqlInsertMount xid src dst type opts)
      [insertRow (.mount, [.int (int32 xid), .str src, .str dst, .str type, .str opts])] :=
  .single [.key .insert, .key .into, .name (cstr "mount"), .sym '(', .name (cstr "xid"),
      .sym ',', .name (cstr "src"), .sym ',', .name (cstr "dst"), .sym ',',
      .name (cstr "type"), .sym ',', .name (cstr "opts"), .sym ')', .key .values,
      .sym '(', .int (int32 xid), .sym ',', .str src, .sym ',', .str dst, .sym ',',
      .str type, .sym ',', .str opts, .sym ')']
    (fun _ => by rfl) (by simp) (by simp) (by rfl) (by rfl)

/-- The tables with a text beside the context id, with the column of the text. -/
def textColumns : List (Table × Str) :=
  [(.vxBcaps, cstr "bcap"), (.vxCcaps, cstr "ccap"), (.vxFlags, cstr "flag"),
    (.vdir, cstr "vdir"), (.xidNameMap, cstr "name")]

theorem isScript_sqlInsertText (xid : Int) {table : Table} {key : Str} (text : Str)
    (mem : (table, key) ∈ textColumns) :
    IsScript (sqlInsertText table key xid text)
      [insertRow (table, [.int (int32 xid), .str text])] := by
  simp only [textColumns, List.mem_cons, List.not_mem_nil, or_false, Prod.mk.injEq] at mem
  refine .single [.key .insert, .key .into, .name table.name, .sym '(', .name (cstr "xid"),
    .sym ',', .name key, .sym ')', .key .values, .sym '(', .int (int32 xid), .sym ',',
    .str text, .sym ')'] (fun next => ?_) (by simp) (by simp) (by rfl) ?_
  · rcases mem with ⟨rfl, rfl⟩ | ⟨rfl, rfl⟩ | ⟨rfl, rfl⟩ | ⟨rfl, rfl⟩ | ⟨rfl, rfl⟩ <;> rfl
  · rcases mem with ⟨rfl, rfl⟩ | ⟨rfl, rfl⟩ | ⟨rfl, rfl⟩ | ⟨rfl, rfl⟩ | ⟨rfl, rfl⟩ <;> rfl

/-- The pieces of the script between its transaction statements. -/
def createPieces (xid : Int) (entries : Entries) : List Piece :=
  sqlClear xid ++
    (sqlInsertInit xid entries.init entries.halt entries.reboot entries.timeout ++
    (entries.mounts.flatMap (fun (src, dst, type, opts) =>
      sqlInsertMount xid src dst type opts) ++
    (entries.bcaps.flatMap (sqlInsertText .vxBcaps (cstr "bcap") xid) ++
    (entries.ccaps.flatMap (sqlInsertText .vxCcaps (cstr "ccap") xid) ++
    (entries.flags.flatMap (sqlInsertText .vxFlags (cstr "flag") xid) ++
    (sqlInsertText .vdir (cstr "vdir") xid entries.vdir ++
    sqlInsertText .xidNameMap (cstr "name") xid entries.name))))))

theorem sqlCreate_eq (xid : Int) (entries : Entries) :
    sqlCreate xid entries = .chars (cstr "BEGIN EXCLUSIVE TRANSACTION;") ::
      createPieces xid entries ++ [.chars (cstr "COMMIT TRANSACTION;")] := by
  simp only [sqlCreate, createPieces, List.append_assoc, List.cons_append]

theorem createChanges_eq (xid : Int) (entries : Entries) :
    createChanges xid entries = clearedTables.map (deleteXid xid) ++
      ([insertRow (.init, [.int (int32 xid), .str entries.init, .str entries.halt,
        .str entries.reboot, .int entries.timeout])] ++
      (entries.mounts.map (fun (src, dst, type, opts) =>
        insertRow (.mount, [.int (int32 xid), .str src, .str dst, .str type, .str opts])) ++
      (entries.bcaps.map (fun text => insertRow (.vxBcaps, [.int (int32 xid), .str text])) ++
      (entries.ccaps.map (fun text => insertRow (.vxCcaps, [.int (int32 xid), .str text])) ++
      (entries.flags.map (fun text => insertRow (.vxFlags, [.int (int32 xid), .str text])) ++
      ([insertRow (.vdir, [.int (int32 xid), .str entries.vdir])] ++
      [insertRow (.xidNameMap, [.int (int32 xid), .str entries.name])])))))) := by
  simp only [createChanges, Entries.rows, List.map_append, List.map_cons, List.map_map,
    List.map_nil, Function.comp_def, List.append_assoc, List.cons_append, List.nil_append]

theorem isScript_createPieces (xid : Int) (entries : Entries) :
    IsScript (createPieces xid entries) (createChanges xid entries) := by
  have clear : IsScript (sqlClear xid) (clearedTables.map (deleteXid xid)) := by
    rw [sqlClear_eq]
    exact isScript_deletes xid (by decide)
  have mounts : IsScript (entries.mounts.flatMap fun (src, dst, type, opts) =>
      sqlInsertMount xid src dst type opts) (entries.mounts.map fun (src, dst, type, opts) =>
        insertRow (.mount, [.int (int32 xid), .str src, .str dst, .str type, .str opts])) :=
    .map fun (src, dst, type, opts) _ => isScript_sqlInsertMount xid src dst type opts
  have texts (table : Table) (key : Str) (mem : (table, key) ∈ textColumns)
      (items : List Str) : IsScript (items.flatMap (sqlInsertText table key xid))
        (items.map fun text => insertRow (table, [.int (int32 xid), .str text])) :=
    .map fun text _ => isScript_sqlInsertText xid text mem
  rw [createChanges_eq]
  refine clear.append ?_
  refine (isScript_sqlInsertInit xid _ _ _ _).append ?_
  refine mounts.append ?_
  refine (texts .vxBcaps (cstr "bcap") (by decide) _).append ?_
  refine (texts .vxCcaps (cstr "ccap") (by decide) _).append ?_
  refine (texts .vxFlags (cstr "flag") (by decide) _).append ?_
  refine (isScript_sqlInsertText xid entries.vdir ?_).append
    (isScript_sqlInsertText xid entries.name ?_)
  · decide
  · decide

/-- The piece comes from a format without stray conversions, and its string argument from
a list of strings. -/
def FromStrings (strings : List Str) : Piece → Prop
  | .chars text => '%' ∉ text
  | .int _ => True
  | .str text => text ∈ strings

theorem fromStrings_sqlClear (xid : Int) (strings : List Str) :
    ∀ piece ∈ sqlClear xid, FromStrings strings piece := by
  intro piece mem
  rw [sqlClear_eq] at mem
  obtain ⟨entry, entryMem, mem⟩ := List.mem_flatMap.mp mem
  have names : ∀ entry ∈ alignedCleared, '%' ∉ entry.1 := by decide
  simp only [sqlDeleteXid, xidPiece, List.mem_cons, List.not_mem_nil, or_false] at mem
  rcases mem with rfl | rfl | rfl | rfl | rfl
  · exact (by decide : '%' ∉ cstr "DELETE FROM ")
  · exact names entry entryMem
  · exact (by decide : '%' ∉ cstr " WHERE xid = ")
  · trivial
  · exact (by decide : '%' ∉ cstr ";")

theorem fromStrings_sqlInsertInit (xid timeout : Int) (init halt reboot : Str) :
    ∀ piece ∈ sqlInsertInit xid init halt reboot timeout,
      FromStrings [init, halt, reboot] piece := by
  simp [sqlInsertInit, xidPiece, FromStrings]
  decide

theorem fromStrings_sqlInsertMount (xid : Int) (src dst type opts : Str) :
    ∀ piece ∈ sqlInsertMount xid src dst type opts,
      FromStrings [src, dst, type, opts] piece := by
  simp [sqlInsertMount, xidPiece, FromStrings]
  decide

theorem fromStrings_sqlInsertText (xid : Int) {table : Table} {key : Str} (text : Str)
    (mem : (table, key) ∈ textColumns) :
    ∀ piece ∈ sqlInsertText table key xid text, FromStrings [text] piece := by
  have names : ∀ entry ∈ textColumns, '%' ∉ entry.1.name ∧ '%' ∉ entry.2 := by decide
  have known := names _ mem
  simp [sqlInsertText, xidPiece, FromStrings, known.1, known.2]
  decide

theorem FromStrings.mono {fewer strings : List Str} (subset : fewer ⊆ strings) {piece : Piece}
    (known : FromStrings fewer piece) : FromStrings strings piece := by
  cases piece with
  | str text => exact subset known
  | _ => exact known

theorem fromStrings_createPieces {xid : Int} {entries : Entries} {piece : Piece}
    (mem : piece ∈ createPieces xid entries) : FromStrings entries.strings piece := by
  have texts (table : Table) (key : Str) (known : (table, key) ∈ textColumns)
      (items : List Str) (listed : ∀ item ∈ items, item ∈ entries.strings)
      (mem : piece ∈ items.flatMap (sqlInsertText table key xid)) :
      FromStrings entries.strings piece := by
    obtain ⟨item, itemMem, mem⟩ := List.mem_flatMap.mp mem
    exact (fromStrings_sqlInsertText xid item known piece mem).mono
      (by simp [listed item itemMem])
  simp only [createPieces, List.mem_append] at mem
  rcases mem with mem | mem | mem | mem | mem | mem | mem | mem
  · exact fromStrings_sqlClear xid _ piece mem
  · exact (fromStrings_sqlInsertInit xid _ _ _ _ piece mem).mono (by simp [Entries.strings])
  · obtain ⟨⟨src, dst, type, opts⟩, itemMem, mem⟩ := List.mem_flatMap.mp mem
    refine (fromStrings_sqlInsertMount xid src dst type opts piece mem).mono ?_
    intro text textMem
    simp only [Entries.strings, List.append_assoc, List.mem_append, List.mem_flatMap]
    exact .inr (.inl ⟨_, itemMem, textMem⟩)
  · exact texts .vxBcaps (cstr "bcap") (by decide) entries.bcaps
      (fun item listed => by simp [Entries.strings, listed]) mem
  · exact texts .vxCcaps (cstr "ccap") (by decide) entries.ccaps
      (fun item listed => by simp [Entries.strings, listed]) mem
  · exact texts .vxFlags (cstr "flag") (by decide) entries.flags
      (fun item listed => by simp [Entries.strings, listed]) mem
  · exact (fromStrings_sqlInsertText xid entries.vdir (by decide) piece mem).mono
      (by simp [Entries.strings])
  · exact (fromStrings_sqlInsertText xid entries.name (by decide) piece mem).mono
      (by simp [Entries.strings])

/-- The strings of a script contain neither quotes nor percent signs, so both formatted
prints leave them alone. -/
def Entries.Clean (entries : Entries) : Prop :=
  ∀ text ∈ entries.strings, QuoteFree text ∧ '%' ∉ text

theorem free_createPieces {entries : Entries} (clean : entries.Clean) (xid : Int) :
    ∀ piece ∈ createPieces xid entries, piece.Free := by
  intro piece mem
  have known := fromStrings_createPieces mem
  cases piece with
  | str text => exact (clean text known).1
  | _ => trivial

theorem runs_sqlCreate {entries : Entries} (clean : entries.Clean) (xid : Int) :
    Runs (render (sqlCreate xid entries)) (createChanges xid entries) := by
  rw [sqlCreate_eq]
  exact (isScript_createPieces xid entries).runs (free_createPieces clean xid)

theorem not_mem_decimal (value : Int) : '%' ∉ decimal value := by
  intro mem
  rcases mem_decimal mem with minus | digit
  · exact absurd minus (by decide)
  · exact absurd digit (by decide)

/-- A clean script is not formatted a second time. -/
theorem not_mem_render_sqlCreate {entries : Entries} (clean : entries.Clean) (xid : Int) :
    '%' ∉ render (sqlCreate xid entries) := by
  intro mem
  obtain ⟨piece, pieceMem, mem⟩ := List.mem_flatMap.mp mem
  simp only [sqlCreate_eq, List.cons_append, List.mem_cons, List.mem_append, List.not_mem_nil,
    or_false] at pieceMem
  rcases pieceMem with rfl | pieceMem | rfl
  · exact absurd mem (by decide)
  · have known := fromStrings_createPieces pieceMem
    cases piece with
    | chars text => exact known mem
    | int value => exact not_mem_decimal value mem
    | str text => exact (clean text known).2 mem
  · exact absurd mem (by decide)

end Vcd
