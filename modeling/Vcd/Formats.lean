import Vcd.Cpusets
import Vcd.Vxdb.Sanity
import Vcd.Vxdb.Statements
import Vcd.Sql.Templates

/-!
# Formatted statements

The formats of all statements that only take integers and strings some validator has accepted.
No accepted string has a quote, so each statement is its format with the arguments in place of
the conversions.
-/

namespace Vcd

open Sql Process

/-! ## Validators -/

/-- What the validators ask of the library: whether a look-up in a list has a non-zero result,
and what a conversion reads from an id. -/
structure Library where
  found : List Str → Str → Bool
  scan : Str → Int

/-- The validators of strings. -/
inductive Kind where
  | name | username | group | vcdCap | bcap | ccap | cflag | rlimit | uname
  | cpuset (type : Int)

namespace Kind

/-- `validate_vcd_cap` and the other validators of listed names. -/
def validateFound (library : Library) (names : List Str) (text : Str) : Bool :=
  !(strIsempty text || !library.found names text)

def validate (library : Library) (host : Host) : Kind → Str → Bool
  | .name => validateName
  | .username => validateUsername
  | .group => validateGroup
  | .vcdCap => validateFound library (vcdCapsList.map (·.1))
  | .bcap => validateFound library bcapsList
  | .ccap => validateFound library ccapsList
  | .cflag => validateFound library cflagsList
  | .rlimit => validateFound library rlimitList
  | .uname => validateFound library unameList
  | .cpuset type => fun text => validateCpusetWith library.scan host text type

end Kind

/-- A look-up finds nothing but the names of the list, in upper or lower case. -/
def Library.Lists (library : Library) : Prop :=
  ∀ names text, library.found names text = true →
    ∃ name ∈ names, name.map Char.toLower = text.map Char.toLower

theorem quoteFree_of_toLower {left right : Str}
    (same : left.map Char.toLower = right.map Char.toLower) (free : QuoteFree left) : QuoteFree right := by
  intro mem
  have lower : '\'' ∈ left.map Char.toLower := by
    rw [same]
    exact List.mem_map.mpr ⟨'\'', mem, rfl⟩
  obtain ⟨char, listed, equal⟩ := List.mem_map.mp lower
  refine free ?_
  unfold Char.toLower at equal
  split at equal
  next upper =>
    -- A lower-case letter is no quote.
    have bounds : 65 ≤ char.val.toNat ∧ char.val.toNat ≤ 90 := upper
    have code := congrArg (fun char : Char => char.val.toNat) equal
    dsimp only at code
    rw [UInt32.toNat_add] at code
    have shift : ('a'.val - 'A'.val).toNat = 32 := rfl
    have quote : '\''.val.toNat = 39 := rfl
    rw [shift, quote] at code
    omega
  next => rwa [← equal]

theorem mem_splitOn {text : Str} {char separator : Char} (mem : char ∈ text)
    (ne : char ≠ separator) : ∃ part ∈ text.splitOn separator, char ∈ part := by
  induction text with
  | nil => cases mem
  | cons first rest ih =>
      rw [List.splitOn_cons_eq_if_modifyHead]
      by_cases split : first = separator
      · have later : char ∈ rest := (List.mem_cons.mp mem).resolve_left (split ▸ ne)
        obtain ⟨part, listed, inside⟩ := ih later
        rw [if_pos (beq_iff_eq.mpr split)]
        exact ⟨part, List.mem_cons_of_mem _ listed, inside⟩
      · rw [if_neg (fun equal => split (beq_iff_eq.mp equal))]
        cases parts : rest.splitOn separator with
        | nil => exact absurd parts (List.splitOn_ne_nil _ _)
        | cons head tail =>
            rcases List.mem_cons.mp mem with rfl | later
            · exact ⟨_, List.mem_cons_self, List.mem_cons_self⟩
            · obtain ⟨part, listed, inside⟩ := ih later
              rw [parts] at listed
              rcases List.mem_cons.mp listed with rfl | listed
              · exact ⟨_, List.mem_cons_self, List.mem_cons_of_mem _ inside⟩
              · exact ⟨part, List.mem_cons_of_mem _ listed, inside⟩

theorem quoteFree_of_validateCpuset {library : Library} {host : Host} {text : Str} {type : Int}
    (valid : validateCpusetWith library.scan host text type = true) : QuoteFree text := by
  have digits : ∀ id ∈ text.splitOn ',', id ≠ [] → strIsdigit id = true := by
    intro id mem nonempty
    by_cases cpus : type = 0
    · rw [cpus, validateCpusetWith_cpus] at valid
      exact (valid.2.2.2 id mem nonempty).1
    · by_cases mems : type = 1
      · rw [mems, validateCpusetWith_mems] at valid
        exact (valid.2.2.2 id mem nonempty).1
      · simp [validateCpusetWith, cpus, mems] at valid
  intro quote
  obtain ⟨id, mem, inside⟩ := mem_splitOn quote (by decide : '\'' ≠ ',')
  have digit := List.all_eq_true.mp (digits id mem (List.ne_nil_of_mem inside)) '\'' inside
  exact absurd digit (by decide)

namespace Kind

variable {library : Library} {host : Host}

theorem quoteFree_of_found (lists : library.Lists) {names : List Str}
    (free : ∀ name ∈ names, QuoteFree name) {text : Str}
    (valid : validateFound library names text = true) : QuoteFree text := by
  unfold validateFound at valid
  rw [Bool.not_eq_true', Bool.or_eq_false_iff, Bool.not_eq_false'] at valid
  obtain ⟨name, mem, same⟩ := lists names text valid.2
  exact quoteFree_of_toLower same (free name mem)

/-- No validator accepts a quote. -/
theorem quoteFree_of_validate (lists : library.Lists) (kind : Kind) {text : Str}
    (valid : kind.validate library host text = true) : QuoteFree text := by
  cases kind with
  | name => exact quoteFree_of_validateName valid
  | username => exact quoteFree_of_validateUsername valid
  | group => exact quoteFree_of_validateGroup valid
  | cpuset type => exact quoteFree_of_validateCpuset valid
  | vcdCap => exact quoteFree_of_found lists (by decide) valid
  | bcap => exact quoteFree_of_found lists (by decide) valid
  | ccap => exact quoteFree_of_found lists (by decide) valid
  | cflag => exact quoteFree_of_found lists (by decide) valid
  | rlimit => exact quoteFree_of_found lists (by decide) valid
  | uname => exact quoteFree_of_found lists (by decide) valid

end Kind

/-! ## The formats -/

/-- An argument of a statement: an integer, or a string with the validator that has accepted
it. -/
inductive Given where
  | int (value : Int)
  | str (kind : Kind) (text : Str)

namespace Given

def arg : Given → Arg
  | .int value => .int value
  | .str _ text => .str text

/-- The validator has accepted the string. -/
def Accepted (library : Library) (host : Host) : Given → Prop
  | .int _ => True
  | .str kind text => kind.validate library host text = true

end Given

/-- An id of a context, as it is printed. -/
abbrev Given.xid (xid : Int) : Given :=
  .int (int32 xid)

/-- What the getters and the startup of a context select by the context id alone. -/
def xidSelects : List Str :=
  [cstr "SELECT space,inodes,reserved FROM dx_limit",
    cstr "SELECT init,halt,reboot,timeout FROM init", cstr "SELECT src,dst,type,opts FROM mount",
    cstr "SELECT addr,netmask FROM nx_addr", cstr "SELECT broadcast FROM nx_broadcast",
    cstr "SELECT bcap FROM vx_bcaps", cstr "SELECT ccap FROM vx_ccaps",
    cstr "SELECT flag FROM vx_flags", cstr "SELECT cpus,mems,virtualize FROM vx_cpuset",
    cstr "SELECT type,soft,max FROM vx_limit", cstr "SELECT type,value FROM vx_uname",
    cstr "SELECT cpuid, fillrate, interval, fillrate2, interval2, tokensmin, tokensmax " ++
      cstr "FROM vx_sched"]

/-- The tables with a list of names, with the column and the validator of the names. -/
def listKinds : List (Table × Str × Kind) :=
  [(.vxBcaps, cstr "bcap", .bcap), (.vxCcaps, cstr "ccap", .ccap),
    (.vxFlags, cstr "flag", .cflag)]

/-- The tables whose rows are removed by a listed name. -/
def removeKinds : List (Table × Str × Kind) :=
  listKinds ++ [(.vxLimit, cstr "type", .rlimit), (.vxUname, cstr "type", .uname)]

/-- What is selected by the context id and a listed name. -/
def keyKinds : List (Str × Kind) :=
  [(cstr "SELECT type,soft,max FROM vx_limit", .rlimit),
    (cstr "SELECT type,value FROM vx_uname", .uname)]

/-- The statement that sets the version of the database file. -/
def sqlUserVersion (version : Int) : List Piece :=
  [.chars (cstr "PRAGMA user_version = "), .int version]

/-- The statements that are formatted from integers and validated strings, with their formats
as the source has them. -/
inductive Formatted : List Piece → Str → List Given → Prop where
  | getxid (name : Str) : Formatted (sqlGetxid name)
      (cstr "SELECT xid FROM xid_name_map WHERE name = '%s'") [.str .name name]
  | getname (xid : Int) : Formatted (sqlGetname xid)
      (cstr "SELECT name FROM xid_name_map WHERE xid = %d") [.xid xid]
  | getvdir (xid : Int) : Formatted (sqlGetvdir xid)
      (cstr "SELECT vdir FROM vdir WHERE xid = %d") [.xid xid]
  | getgid (group : Str) : Formatted (sqlGetgid group)
      (cstr "SELECT gid FROM groups WHERE name = '%s'") [.str .group group]
  | userVersion (version : Int) : Formatted (sqlUserVersion version)
      (cstr "PRAGMA user_version = %d") [.int version]
  | createAdmin (uid : Int) : Formatted (sqlCreateAdmin uid)
      (cstr "BEGIN EXCLUSIVE TRANSACTION;INSERT INTO user (uid, name, password, admin) " ++
        cstr "VALUES (%d, 'admin', '*', 1);INSERT INTO user_caps VALUES(%d, 'AUTH');" ++
        cstr "INSERT INTO user_caps VALUES(%d, 'DLIM');" ++
        cstr "INSERT INTO user_caps VALUES(%d, 'INIT');" ++
        cstr "INSERT INTO user_caps VALUES(%d, 'MOUNT');" ++
        cstr "INSERT INTO user_caps VALUES(%d, 'NET');" ++
        cstr "INSERT INTO user_caps VALUES(%d, 'BCAP');" ++
        cstr "INSERT INTO user_caps VALUES(%d, 'CCAP');" ++
        cstr "INSERT INTO user_caps VALUES(%d, 'CFLAG');" ++
        cstr "INSERT INTO user_caps VALUES(%d, 'RLIM');" ++
        cstr "INSERT INTO user_caps VALUES(%d, 'SCHED');" ++
        cstr "INSERT INTO user_caps VALUES(%d, 'UNAME');" ++
        cstr "INSERT INTO user_caps VALUES(%d, 'CREATE');" ++
        cstr "INSERT INTO user_caps VALUES(%d, 'EXEC');" ++
        cstr "INSERT INTO user_caps VALUES(%d, 'INFO');COMMIT TRANSACTION;")
      (List.replicate 15 (.int uid))
  | createVshelper (uid : Int) : Formatted (sqlCreateVshelper uid)
      (cstr "BEGIN EXCLUSIVE TRANSACTION;INSERT INTO user (uid, name, password, admin) " ++
        cstr "VALUES (%d, 'vshelper', '*', 0);INSERT INTO user_caps VALUES(%d, 'HELPER');" ++
        cstr "COMMIT TRANSACTION") [.int uid, .int uid]
  | isadmin (user : Str) : Formatted (sqlIsadmin user)
      (cstr "SELECT uid FROM user WHERE name = '%s' AND admin = 1") [.str .username user]
  | hascapability (uid : Int) (cap : Str) : Formatted (sqlHascapability uid cap)
      (cstr "SELECT uid FROM user_caps WHERE uid = %d and cap = '%s'")
      [.int uid, .str .vcdCap cap]
  | isowner (uid xid : Int) : Formatted (sqlIsowner uid xid)
      (cstr "SELECT uid FROM xid_uid_map WHERE uid = %d AND xid = %d") [.int uid, .xid xid]
  | getuid (user : Str) : Formatted (sqlGetuid user)
      (cstr "SELECT uid FROM user WHERE name = '%s'") [.str .username user]
  | userCapsAdd (uid : Int) (cap : Str) : Formatted (sqlUserCapsAdd uid cap)
      (cstr "INSERT OR REPLACE INTO user_caps (uid, cap) VALUES (%d, '%s')")
      [.int uid, .str .vcdCap cap]
  | userCapsGet (uid : Int) : Formatted (sqlUserCapsGet uid)
      (cstr "SELECT cap FROM user_caps WHERE uid = %d") [.int uid]
  | userCapsRemove (uid : Int) (cap : Str) : Formatted (sqlUserCapsRemove uid (some cap))
      (cstr "DELETE FROM user_caps WHERE uid = %d AND cap = '%s'") [.int uid, .str .vcdCap cap]
  | userCapsClear (uid : Int) : Formatted (sqlUserCapsRemove uid none)
      (cstr "DELETE FROM user_caps WHERE uid = %d") [.int uid]
  | userGet (user : Str) : Formatted (sqlUserGet (some user))
      (cstr "SELECT name,uid,admin FROM user WHERE name = '%s'") [.str .username user]
  | userRemove (uid : Int) : Formatted (sqlUserRemove uid)
      (cstr "BEGIN TRANSACTION;DELETE FROM xid_uid_map WHERE uid = %d;" ++
        cstr "DELETE FROM user_caps WHERE uid = %d;DELETE FROM user WHERE uid = %d;" ++
        cstr "COMMIT TRANSACTION;") [.int uid, .int uid, .int uid]
  | userAdmin (uid admin : Int) : Formatted (sqlUserAdmin uid admin)
      (cstr "UPDATE user SET admin = %d WHERE uid = %d") [.int admin, .int uid]
  | groupInsert (gid : Int) (group : Str) : Formatted (sqlGroupInsert gid group)
      (cstr "INSERT INTO groups (gid, name) VALUES (%d, '%s')") [.int gid, .str .group group]
  | memberInsert (xid gid : Int) : Formatted (sqlMemberInsert xid gid)
      (cstr "INSERT INTO xid_gid_map (xid, gid) VALUES (%d, %d)") [.xid xid, .int gid]
  | memberRemove (xid gid : Int) : Formatted (sqlMemberRemove xid gid)
      (cstr "DELETE FROM xid_gid_map WHERE xid = %d AND gid = %d") [.xid xid, .int gid]
  | groupRemove (gid : Int) : Formatted (sqlGroupRemove gid)
      (cstr "BEGIN EXCLUSIVE TRANSACTION;DELETE FROM xid_gid_map WHERE gid = %d;" ++
        cstr "DELETE FROM groups WHERE gid = %d;COMMIT TRANSACTION;") [.int gid, .int gid]
  | memberNames (gid : Int) : Formatted (sqlMemberNames gid)
      (cstr "SELECT xid_name_map.name FROM xid_name_map INNER JOIN xid_gid_map " ++
        cstr "ON xid_name_map.xid = xid_gid_map.xid WHERE xid_gid_map.gid = %d " ++
        cstr "ORDER BY xid_name_map.name ASC") [.int gid]
  | members (gid : Int) : Formatted (sqlMembers gid)
      (cstr "SELECT xid_name_map.xid,xid_name_map.name FROM xid_name_map " ++
        cstr "INNER JOIN xid_gid_map ON xid_name_map.xid = xid_gid_map.xid " ++
        cstr "WHERE xid_gid_map.gid = %d") [.int gid]
  | vxStop (xid : Int) : Formatted (sqlStop xid)
      (cstr "SELECT halt,timeout FROM init WHERE xid = %d") [.xid xid]
  | vxReboot (xid : Int) : Formatted (sqlReboot xid)
      (cstr "SELECT reboot FROM init WHERE xid = %d") [.xid xid]
  | vxRemove (xid : Int) : Formatted (sqlVxRemove xid)
      (cstr "BEGIN EXCLUSIVE TRANSACTION;DELETE FROM dx_limit     WHERE xid = %d;" ++
        cstr "DELETE FROM init         WHERE xid = %d;DELETE FROM mount        WHERE xid = %d;" ++
        cstr "DELETE FROM nx_addr      WHERE xid = %d;DELETE FROM nx_broadcast WHERE xid = %d;" ++
        cstr "DELETE FROM restart      WHERE xid = %d;DELETE FROM vdir         WHERE xid = %d;" ++
        cstr "DELETE FROM vx_bcaps     WHERE xid = %d;DELETE FROM vx_ccaps     WHERE xid = %d;" ++
        cstr "DELETE FROM vx_flags     WHERE xid = %d;DELETE FROM vx_limit     WHERE xid = %d;" ++
        cstr "DELETE FROM vx_sched     WHERE xid = %d;DELETE FROM vx_uname     WHERE xid = %d;" ++
        cstr "DELETE FROM xid_gid_map  WHERE xid = %d;DELETE FROM xid_name_map WHERE xid = %d;" ++
        cstr "DELETE FROM xid_uid_map  WHERE xid = %d;COMMIT TRANSACTION;")
      (List.replicate 16 (.xid xid))
  | vxRename (newname : Str) (xid : Int) : Formatted (sqlVxRename newname xid)
      (cstr "UPDATE xid_name_map SET name = '%s' WHERE xid = %d;") [.str .name newname, .xid xid]
  | restartInsert (xid : Int) : Formatted (sqlRestartInsert xid)
      (cstr "INSERT OR REPLACE INTO restart (xid) VALUES (%d)") [.xid xid]
  | restartDelete (xid : Int) : Formatted (sqlRestartDelete xid)
      (cstr "DELETE FROM restart WHERE xid = %d") [.xid xid]
  | timeout (xid : Int) : Formatted (sqlTimeout xid)
      (cstr "SELECT timeout FROM init WHERE xid = %d") [.xid xid]
  | scheduler (xid : Int) : Formatted (sqlScheduler xid)
      (cstr "SELECT cpuid,fillrate,fillrate2,interval,interval2,tokensmin,tokensmax " ++
        cstr "FROM vx_sched WHERE xid = %d ORDER BY cpuid ASC") [.xid xid]
  | rootMount (xid : Int) : Formatted (sqlRootMount xid)
      (cstr "SELECT src,dst,type,opts FROM mount WHERE xid = %d AND dst = '/'") [.xid xid]
  | init (xid : Int) : Formatted (sqlInit xid)
      (cstr "SELECT init FROM init WHERE xid = %d") [.xid xid]
  | ofXid {select : Str} (listed : select ∈ xidSelects) (xid : Int) :
      Formatted (sqlOfXid select xid) (select ++ cstr " WHERE xid = %d") [.xid xid]
  | mountGet (xid : Int) : Formatted (sqlOfXid (cstr "SELECT src,dst,type,opts FROM mount") xid ++
        [.chars (cstr " ORDER BY dst ASC")])
      (cstr "SELECT src,dst,type,opts FROM mount WHERE xid = %d ORDER BY dst ASC") [.xid xid]
  | schedGet (xid cpuid : Int) : Formatted (sqlOfXid (cstr "SELECT cpuid, fillrate, interval, " ++
        cstr "fillrate2, interval2, tokensmin, tokensmax FROM vx_sched") xid ++
        [.chars (cstr " AND cpuid = "), .int cpuid])
      (cstr "SELECT cpuid, fillrate, interval, fillrate2, interval2, tokensmin, tokensmax " ++
        cstr "FROM vx_sched WHERE xid = %d AND cpuid = %d") [.xid xid, .int cpuid]
  | keyGet {select : Str} {kind : Kind} (listed : (select, kind) ∈ keyKinds) (xid : Int)
      (type : Str) : Formatted (sqlOfXid select xid ++
        [.chars (cstr " AND "), .chars (cstr "type"), .chars (cstr " = '"), .str type,
          .chars (cstr "'")])
      (select ++ cstr " WHERE xid = %d AND type = '%s'") [.xid xid, .str kind type]
  | add {table : Table} {key : Str} {kind : Kind} (listed : (table, key, kind) ∈ listKinds)
      (value : Str) (xid : Int) : Formatted (sqlAdd table key value xid)
      (cstr "INSERT OR REPLACE INTO " ++ table.name ++ cstr " (xid, " ++ key ++
        cstr ") VALUES (%d, '%s')") [.xid xid, .str kind value]
  | remove {table : Table} (listed : table ∈ settingTables) (xid : Int) :
      Formatted (sqlRemove table xid) (cstr "DELETE FROM " ++ table.name ++ cstr " WHERE xid = %d")
      [.xid xid]
  | removeKey {table : Table} {key : Str} {kind : Kind} (listed : (table, key, kind) ∈ removeKinds)
      (xid : Int) (value : Str) : Formatted (sqlRemoveKey table key xid value)
      (cstr "DELETE FROM " ++ table.name ++ cstr " WHERE xid = %d AND " ++ key ++ cstr " = '%s'")
      [.xid xid, .str kind value]
  | dxLimitSet (space inodes reserved xid : Int) :
      Formatted (sqlDxLimitSet space inodes reserved xid)
      (cstr "INSERT OR REPLACE INTO dx_limit (xid, space, inodes, reserved) " ++
        cstr "VALUES (%d, '%u', '%u', %d)") [.xid xid, .int space, .int inodes, .int reserved]
  | vxCpusetSet (cpus mems : Str) (virtualize xid : Int) :
      Formatted (sqlVxCpusetSet cpus mems virtualize xid)
      (cstr "INSERT OR REPLACE INTO vx_cpuset (xid, cpus, mems, virtualize) " ++
        cstr "VALUES (%d, '%s', '%s', %d)")
      [.xid xid, .str (.cpuset 0) cpus, .str (.cpuset 1) mems, .int virtualize]
  | vxSchedSet (fillrate interval fillrate2 interval2 tokensmin tokensmax cpuid xid : Int) :
      Formatted
      (sqlVxSchedSet fillrate interval fillrate2 interval2 tokensmin tokensmax cpuid xid)
      (cstr "INSERT OR REPLACE INTO vx_sched (xid, fillrate, interval, fillrate2, " ++
        cstr "interval2, tokensmin, tokensmax, cpuid) VALUES (%d, %d, %d, %d, %d, %d, %d, %d)")
      [.xid xid, .int fillrate, .int interval, .int fillrate2, .int interval2, .int tokensmin,
        .int tokensmax, .int cpuid]
  | vxSchedRemove (cpuid xid : Int) : Formatted (sqlVxSchedRemoveCpu cpuid xid)
      (cstr "DELETE FROM vx_sched WHERE xid = %d AND cpuid = %d") [.xid xid, .int cpuid]
  | vxLimitSet (type : Str) (soft max xid : Int) : Formatted (sqlVxLimitSet type soft max xid)
      (cstr "INSERT OR REPLACE INTO vx_limit (xid, type, soft, max) " ++
        cstr "VALUES (%d, '%s', '%u', '%u')") [.xid xid, .str .rlimit type, .int soft, .int max]
  | ownerAdd (xid uid : Int) : Formatted (sqlOwnerAdd xid uid)
      (cstr "INSERT OR REPLACE INTO xid_uid_map (xid, uid) VALUES (%d, %d)") [.xid xid, .int uid]
  | ownerGet (xid : Int) : Formatted (sqlOwnerGet xid)
      (cstr "SELECT user.name FROM user INNER JOIN xid_uid_map " ++
        cstr "ON user.uid = xid_uid_map.uid WHERE xid_uid_map.xid = %d") [.xid xid]
  | ownerRemove (xid : Int) {uid : Int} (given : uid ≠ 0) : Formatted (sqlOwnerRemove xid uid)
      (cstr "DELETE FROM xid_uid_map WHERE xid = %d AND uid = %d") [.xid xid, .int uid]
  | ownerClear (xid : Int) : Formatted (sqlOwnerRemove xid 0)
      (cstr "DELETE FROM xid_uid_map WHERE xid = %d") [.xid xid]
  | listOfUser (uid : Int) : Formatted (sqlListOfUser uid)
      (cstr "SELECT xid_name_map.name FROM xid_name_map INNER JOIN xid_uid_map " ++
        cstr "ON xid_name_map.xid = xid_uid_map.xid WHERE xid_uid_map.uid = %d " ++
        cstr "ORDER BY xid_name_map.name ASC") [.int uid]

/-- Each conversion of a format stands where its argument is a token of its own. -/
structure Template (pieces : List Piece) (template : Str) (given : List Given) : Prop where
  text : render pieces = format template (given.map Given.arg)
  checked : sound template .start = true
  matched : fits template (given.map Given.arg) = true

/-- The checks that do not depend on the arguments. -/
theorem Template.of_outline {pieces : List Piece} {template : Str} {given : List Given}
    (args : pieces.filterMap Piece.arg = given.map Given.arg)
    (checks : outline pieces = template ∧ pieces.all Piece.percentFree = true ∧
      sound template .start = true) : Template pieces template given := by
  obtain ⟨rfl, free, checked⟩ := checks
  obtain ⟨text, matched⟩ := render_eq_format free
  rw [args] at text matched
  exact ⟨text, checked, matched⟩

/-- An unsigned integer is printed in quotes, after a start with no conversion. -/
theorem Template.of_unsigned {pieces : List Piece} {start rest : Str} {given : List Given}
    (text : render pieces = start ++ format rest (given.map Given.arg))
    (free : start.all (· != '%') = true ∧ sound (start ++ rest) .start = true)
    (matched : fits rest (given.map Given.arg) = true) : Template pieces (start ++ rest) given := by
  obtain ⟨free, checked⟩ := free
  exact ⟨text.trans (format_append free _ _).symm, checked, (fits_append free _ _).trans matched⟩

namespace Template

theorem ofXid {select : Str} (listed : select ∈ xidSelects) (xid : Int) :
    Template (sqlOfXid select xid) (select ++ cstr " WHERE xid = %d") [.xid xid] := by
  simp only [xidSelects, List.mem_cons, List.not_mem_nil, or_false] at listed
  rcases listed with rfl | rfl | rfl | rfl | rfl | rfl | rfl | rfl | rfl | rfl | rfl | rfl
  all_goals
    refine .of_outline rfl ?_
    simp only [sqlOfXid, xidPiece, outline, List.flatMap_cons, List.flatMap_nil, List.all_cons,
      List.all_nil, Piece.conversion, Piece.percentFree]
    decide +kernel

theorem keyGet {select : Str} {kind : Kind} (listed : (select, kind) ∈ keyKinds) (xid : Int)
    (type : Str) :
    Template (sqlOfXid select xid ++ [.chars (cstr " AND "), .chars (cstr "type"),
        .chars (cstr " = '"), .str type, .chars (cstr "'")])
      (select ++ cstr " WHERE xid = %d AND type = '%s'") [.xid xid, .str kind type] := by
  simp only [keyKinds, List.mem_cons, List.not_mem_nil, or_false, Prod.mk.injEq] at listed
  rcases listed with ⟨rfl, rfl⟩ | ⟨rfl, rfl⟩
  all_goals
    refine .of_outline rfl ?_
    simp only [sqlOfXid, xidPiece, List.cons_append, List.nil_append, outline,
      List.flatMap_cons, List.flatMap_nil, List.all_cons, List.all_nil, Piece.conversion,
      Piece.percentFree]
    decide +kernel

theorem add {table : Table} {key : Str} {kind : Kind} (listed : (table, key, kind) ∈ listKinds)
    (value : Str) (xid : Int) :
    Template (sqlAdd table key value xid)
      (cstr "INSERT OR REPLACE INTO " ++ table.name ++ cstr " (xid, " ++ key ++
        cstr ") VALUES (%d, '%s')") [.xid xid, .str kind value] := by
  simp only [listKinds, List.mem_cons, List.not_mem_nil, or_false, Prod.mk.injEq] at listed
  rcases listed with ⟨rfl, rfl, rfl⟩ | ⟨rfl, rfl, rfl⟩ | ⟨rfl, rfl, rfl⟩
  all_goals
    refine .of_outline rfl ?_
    simp only [sqlAdd, xidPiece, outline, List.flatMap_cons, List.flatMap_nil, List.all_cons,
      List.all_nil, Piece.conversion, Piece.percentFree]
    decide +kernel

theorem remove {table : Table} (listed : table ∈ settingTables) (xid : Int) :
    Template (sqlRemove table xid) (cstr "DELETE FROM " ++ table.name ++ cstr " WHERE xid = %d")
      [.xid xid] := by
  simp only [settingTables, List.mem_cons, List.not_mem_nil, or_false] at listed
  rcases listed with rfl | rfl | rfl | rfl | rfl | rfl | rfl | rfl | rfl | rfl | rfl
  all_goals
    refine .of_outline rfl ?_
    simp only [sqlRemove, xidPiece, outline, List.flatMap_cons, List.flatMap_nil, List.all_cons,
      List.all_nil, Piece.conversion, Piece.percentFree]
    decide +kernel

theorem removeKey {table : Table} {key : Str} {kind : Kind}
    (listed : (table, key, kind) ∈ removeKinds) (xid : Int) (value : Str) :
    Template (sqlRemoveKey table key xid value)
      (cstr "DELETE FROM " ++ table.name ++ cstr " WHERE xid = %d AND " ++ key ++ cstr " = '%s'")
      [.xid xid, .str kind value] := by
  simp only [removeKinds, listKinds, List.cons_append, List.nil_append, List.mem_cons,
    List.not_mem_nil, or_false, Prod.mk.injEq] at listed
  rcases listed with ⟨rfl, rfl, rfl⟩ | ⟨rfl, rfl, rfl⟩ | ⟨rfl, rfl, rfl⟩ | ⟨rfl, rfl, rfl⟩ |
    ⟨rfl, rfl, rfl⟩
  all_goals
    refine .of_outline rfl ?_
    simp only [sqlRemoveKey, xidPiece, outline, List.flatMap_cons, List.flatMap_nil,
      List.all_cons, List.all_nil, Piece.conversion, Piece.percentFree]
    decide +kernel

theorem vxRemove (xid : Int) : Template (sqlVxRemove xid)
    (cstr "BEGIN EXCLUSIVE TRANSACTION;DELETE FROM dx_limit     WHERE xid = %d;" ++
      cstr "DELETE FROM init         WHERE xid = %d;DELETE FROM mount        WHERE xid = %d;" ++
      cstr "DELETE FROM nx_addr      WHERE xid = %d;DELETE FROM nx_broadcast WHERE xid = %d;" ++
      cstr "DELETE FROM restart      WHERE xid = %d;DELETE FROM vdir         WHERE xid = %d;" ++
      cstr "DELETE FROM vx_bcaps     WHERE xid = %d;DELETE FROM vx_ccaps     WHERE xid = %d;" ++
      cstr "DELETE FROM vx_flags     WHERE xid = %d;DELETE FROM vx_limit     WHERE xid = %d;" ++
      cstr "DELETE FROM vx_sched     WHERE xid = %d;DELETE FROM vx_uname     WHERE xid = %d;" ++
      cstr "DELETE FROM xid_gid_map  WHERE xid = %d;DELETE FROM xid_name_map WHERE xid = %d;" ++
      cstr "DELETE FROM xid_uid_map  WHERE xid = %d;COMMIT TRANSACTION;")
    (List.replicate 16 (.xid xid)) := by
  simp only [sqlVxRemove, sqlDeleteXid, xidPiece, List.cons_append, List.nil_append]
  refine .of_outline ?_ ?_
  · simp only [List.filterMap_cons, List.filterMap_nil, Piece.arg]
    rfl
  · simp only [outline, List.flatMap_cons, List.flatMap_nil, List.all_cons, List.all_nil,
      Piece.conversion, Piece.percentFree]
    decide +kernel

theorem createAdmin (uid : Int) : Template (sqlCreateAdmin uid)
    (cstr "BEGIN EXCLUSIVE TRANSACTION;INSERT INTO user (uid, name, password, admin) " ++
      cstr "VALUES (%d, 'admin', '*', 1);INSERT INTO user_caps VALUES(%d, 'AUTH');" ++
      cstr "INSERT INTO user_caps VALUES(%d, 'DLIM');" ++
      cstr "INSERT INTO user_caps VALUES(%d, 'INIT');" ++
      cstr "INSERT INTO user_caps VALUES(%d, 'MOUNT');" ++
      cstr "INSERT INTO user_caps VALUES(%d, 'NET');" ++
      cstr "INSERT INTO user_caps VALUES(%d, 'BCAP');" ++
      cstr "INSERT INTO user_caps VALUES(%d, 'CCAP');" ++
      cstr "INSERT INTO user_caps VALUES(%d, 'CFLAG');" ++
      cstr "INSERT INTO user_caps VALUES(%d, 'RLIM');" ++
      cstr "INSERT INTO user_caps VALUES(%d, 'SCHED');" ++
      cstr "INSERT INTO user_caps VALUES(%d, 'UNAME');" ++
      cstr "INSERT INTO user_caps VALUES(%d, 'CREATE');" ++
      cstr "INSERT INTO user_caps VALUES(%d, 'EXEC');" ++
      cstr "INSERT INTO user_caps VALUES(%d, 'INFO');COMMIT TRANSACTION;")
    (List.replicate 15 (.int uid)) := by
  simp only [sqlCreateAdmin, adminCaps, sqlGrant, List.flatMap_cons, List.flatMap_nil,
    List.cons_append, List.nil_append]
  refine .of_outline ?_ ?_
  · simp only [List.filterMap_cons, List.filterMap_nil, Piece.arg]
    rfl
  · simp only [outline, List.flatMap_cons, List.flatMap_nil, List.all_cons, List.all_nil,
      Piece.conversion, Piece.percentFree]
    decide +kernel

theorem dxLimitSet (space inodes reserved xid : Int) :
    Template (sqlDxLimitSet space inodes reserved xid)
      (cstr "INSERT OR REPLACE INTO dx_limit (xid, space, inodes, reserved) " ++
        cstr "VALUES (%d, '%u', '%u', %d)")
      [.xid xid, .int space, .int inodes, .int reserved] := by
  have template : (cstr "INSERT OR REPLACE INTO dx_limit (xid, space, inodes, reserved) " ++
      cstr "VALUES (%d, '%u', '%u', %d)") = cstr "INSERT OR REPLACE INTO dx_limit " ++
        cstr "(xid, space, inodes, reserved) VALUES (" ++ cstr "%d, '%u', '%u', %d)" := by
    decide +kernel
  rw [template]
  exact .of_unsigned rfl (by decide +kernel) rfl

theorem vxLimitSet (type : Str) (soft max xid : Int) :
    Template (sqlVxLimitSet type soft max xid)
      (cstr "INSERT OR REPLACE INTO vx_limit (xid, type, soft, max) " ++
        cstr "VALUES (%d, '%s', '%u', '%u')")
      [.xid xid, .str .rlimit type, .int soft, .int max] := by
  have template : (cstr "INSERT OR REPLACE INTO vx_limit (xid, type, soft, max) " ++
      cstr "VALUES (%d, '%s', '%u', '%u')") = cstr "INSERT OR REPLACE INTO vx_limit " ++
        cstr "(xid, type, soft, max) VALUES (" ++ cstr "%d, '%s', '%u', '%u')" := by
    decide +kernel
  rw [template]
  exact .of_unsigned rfl (by decide +kernel) rfl

end Template

theorem Formatted.template {pieces : List Piece} {template : Str} {given : List Given}
    (formatted : Formatted pieces template given) : Template pieces template given := by
  cases formatted with
  | ofXid listed xid => exact .ofXid listed xid
  | keyGet listed xid type => exact .keyGet listed xid type
  | add listed value xid => exact .add listed value xid
  | remove listed xid => exact .remove listed xid
  | removeKey listed xid value => exact .removeKey listed xid value
  | mountGet xid | schedGet xid cpuid =>
      refine .of_outline rfl ?_
      simp only [sqlOfXid, xidPiece, List.cons_append, List.nil_append, outline, List.flatMap_cons,
        List.flatMap_nil, List.all_cons, List.all_nil, Piece.conversion, Piece.percentFree]
      decide +kernel
  | ownerRemove xid given =>
      rw [sqlOwnerRemove, if_pos given]
      refine .of_outline rfl ?_
      simp only [xidPiece, outline, List.flatMap_cons, List.flatMap_nil, List.all_cons,
        List.all_nil, Piece.conversion, Piece.percentFree]
      decide +kernel
  | vxRemove xid => exact .vxRemove xid
  | createAdmin uid => exact .createAdmin uid
  | dxLimitSet space inodes reserved xid => exact .dxLimitSet space inodes reserved xid
  | vxLimitSet type soft max xid => exact .vxLimitSet type soft max xid
  | _ =>
      refine .of_outline rfl ?_
      simp only [sqlGetxid, sqlGetname, sqlGetvdir, sqlGetgid, sqlUserVersion,
        sqlCreateVshelper, sqlIsadmin, sqlGrant, sqlHascapability, sqlIsowner, sqlGetuid, sqlUserCapsAdd, sqlUserCapsGet,
        sqlUserCapsRemove, sqlUserGet, sqlUserRemove, sqlUserAdmin, sqlGroupInsert,
        sqlMemberInsert, sqlMemberRemove, sqlGroupRemove, sqlMemberNames, sqlMembers, sqlStop,
        sqlReboot, sqlVxRename, sqlRestartInsert, sqlRestartDelete, sqlTimeout, sqlScheduler,
        sqlRootMount, sqlInit, sqlVxCpusetSet, sqlVxSchedSet, sqlVxSchedRemoveCpu, sqlOwnerAdd,
        sqlOwnerGet, sqlOwnerRemove, sqlListOfUser, xidPiece, ne_eq, not_true_eq_false, if_false,
        List.cons_append, List.nil_append, outline, List.flatMap_cons, List.flatMap_nil,
        List.all_cons, List.all_nil, Piece.conversion, Piece.percentFree]
      decide +kernel

/-! ## Validated arguments -/

theorem quoteFree_of_accepted {library : Library} {host : Host} {given : List Given} {text : Str}
    (lists : library.Lists) (accepted : ∀ one ∈ given, one.Accepted library host)
    (mem : .str text ∈ given.map Given.arg) : QuoteFree text := by
  obtain ⟨one, listed, equal⟩ := List.mem_map.mp mem
  cases one with
  | int value => cases equal
  | str kind own =>
      obtain rfl : own = text := Arg.str.inj equal
      exact Kind.quoteFree_of_validate lists kind (accepted _ listed)

/-- A library that finds exactly the names of a list. -/
def exactLibrary : Library where
  found names text := decide (text ∈ names)
  scan _ := 0

end Vcd
