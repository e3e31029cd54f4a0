import Vcd.Methods.Config

/-!
# Query methods

The methods that only read: the getters of `vxdb.*`, the lookups of names and
directories, and the queries of `vcd.*`.
-/

namespace Vcd

open Sql Process

/-- A method that checks its parameters, looks the context id up and returns the result
of one query. -/
def configGet (host : Host) (function : Str) (cap : UInt64) (flags : Flags)
    (request : Xml → Except Fault (Str × (Int → List Piece))) (build : List Row → Xml)
    (call : Call) : Method Xml := do
  let params ← methodInit host call cap flags
  let (name, sql) ← ofExcept (request params)
  let xid ← vxdbGetxid name
  if xid = 0 then fault .novps
  match ← vxdbPrepare (sql xid) with
  | none => vxdbFault function
  | some rows => return build rows

def textMember (key : Str) (row : Row) (index : Nat) : Str × Xml :=
  (key, .str (vxdbColumnText row index))

def intMember (key : Str) (row : Row) (index : Nat) : Str × Xml :=
  (key, .int (vxdbColumnInt row index))

/-- The text of the first column of every row. -/
def textList (rows : List Row) : Xml :=
  .array (rows.map fun row => .str (vxdbColumnText row 0))

/-- Select columns of the rows of a context. -/
def sqlOfXid (select : Str) (xid : Int) : List Piece :=
  [.chars select, .chars (cstr " WHERE xid = "), xidPiece xid]

def nameRequest (sql : Int → List Piece) (params : Xml) :
    Except Fault (Str × (Int → List Piece)) := do
  return (← params.getStr (cstr "name"), sql)

/-- Read a name and an optional key; without a key, `rest` ends the statement. -/
def keyRequest (select key : Str) (valid : Str → Bool) (message rest : Str) (params : Xml) :
    Except Fault (Str × (Int → List Piece)) := do
  let name ← params.getStr (cstr "name")
  let value ← params.getStr key
  match methodEmptyParam value with
  | some value =>
      if !valid value then refuse .inval [.chars message, .str value]
      return (name, fun xid => sqlOfXid select xid ++
        [.chars (cstr " AND "), .chars key, .chars (cstr " = '"), .str value,
          .chars (cstr "'")])
  | none => return (name, fun xid => sqlOfXid select xid ++ [.chars rest])

def owned : Flags := { owner := true }

/-! ## Configuration -/

def mVxdbDxLimitGet (host : Host) : Call → Method Xml :=
  configGet host (cstr "m_vxdb_dx_limit_get") capDlim owned
    (nameRequest (sqlOfXid (cstr "SELECT space,inodes,reserved FROM dx_limit"))) fun
    | row :: _ => .struct [textMember (cstr "space") row 0, textMember (cstr "inodes") row 1,
        intMember (cstr "reserved") row 2]
    | [] => .struct [(cstr "space", .str []), (cstr "inodes", .str []),
        (cstr "reserved", .int 0)]

def mVxdbInitGet (host : Host) : Call → Method Xml :=
  configGet host (cstr "m_vxdb_init_get") capInit owned
    (nameRequest (sqlOfXid (cstr "SELECT init,halt,reboot,timeout FROM init"))) fun
    | row :: _ => .struct [textMember (cstr "init") row 0, textMember (cstr "halt") row 1,
        textMember (cstr "reboot") row 2, intMember (cstr "timeout") row 3]
    | [] => .struct [(cstr "init", .str (cstr "/sbin/init")),
        (cstr "halt", .str (cstr "/sbin/halt")),
        (cstr "reboot", .str (cstr "/sbin/reboot")), (cstr "timeout", .int 15)]

def mVxdbMountGet (host : Host) : Call → Method Xml :=
  configGet host (cstr "m_vxdb_mount_get") capMount owned
    (keyRequest (cstr "SELECT src,dst,type,opts FROM mount") (cstr "dst") validatePath
      (cstr "invalid dst value: ") (cstr " ORDER BY dst ASC")) fun rows =>
    .array (rows.map fun row => .struct [textMember (cstr "src") row 0,
      textMember (cstr "dst") row 1, textMember (cstr "type") row 2,
      textMember (cstr "opts") row 3])

def mVxdbNxAddrGet (host : Host) : Call → Method Xml :=
  configGet host (cstr "m_vxdb_nx_addr_get") capNet owned
    (keyRequest (cstr "SELECT addr,netmask FROM nx_addr") (cstr "addr") (validateAddr host)
      (cstr "invalid addr value: ") []) fun rows =>
    .array (rows.map fun row => .struct [textMember (cstr "addr") row 0,
      textMember (cstr "netmask") row 1])

def mVxdbNxBroadcastGet (host : Host) : Call → Method Xml :=
  configGet host (cstr "m_vxdb_nx_broadcast_get") capNet owned
    (nameRequest (sqlOfXid (cstr "SELECT broadcast FROM nx_broadcast"))) fun
    | row :: _ => .str (vxdbColumnText row 0)
    | [] => .str []

def mVxdbVxBcapsGet (host : Host) : Call → Method Xml :=
  configGet host (cstr "m_vxdb_vx_bcaps_get") capBcap owned
    (nameRequest (sqlOfXid (cstr "SELECT bcap FROM vx_bcaps"))) textList

def mVxdbVxCcapsGet (host : Host) : Call → Method Xml :=
  configGet host (cstr "m_vxdb_vx_ccaps_get") capCcap owned
    (nameRequest (sqlOfXid (cstr "SELECT ccap FROM vx_ccaps"))) textList

def mVxdbVxFlagsGet (host : Host) : Call → Method Xml :=
  configGet host (cstr "m_vxdb_vx_flags_get") capCflag owned
    (nameRequest (sqlOfXid (cstr "SELECT flag FROM vx_flags"))) textList

def mVxdbVxCpusetGet (host : Host) : Call → Method Xml :=
  configGet host (cstr "m_vxdb_vx_cpuset_get") capSched owned
    (nameRequest (sqlOfXid (cstr "SELECT cpus,mems,virtualize FROM vx_cpuset"))) fun
    | row :: _ => .struct [textMember (cstr "cpus") row 0, textMember (cstr "mems") row 1,
        intMember (cstr "virtualize") row 2]
    | [] => .struct [(cstr "cpus", .str []), (cstr "mems", .str []),
        (cstr "virtualize", .int 0)]

def schedGetRequest (host : Host) (params : Xml) :
    Except Fault (Str × (Int → List Piece)) := do
  let name ← params.getStr (cstr "name")
  let cpuid ← params.getInt (cstr "cpuid")
  if !validateCpuid host cpuid && cpuid ≠ -2 then
    refuse .inval [.chars (cstr "cpuid out of range: "), .int cpuid]
  let select := sqlOfXid (cstr "SELECT cpuid, fillrate, interval, fillrate2, interval2, " ++
    cstr "tokensmin, tokensmax FROM vx_sched")
  return (name, fun xid =>
    if cpuid = -2 then select xid
    else select xid ++ [.chars (cstr " AND cpuid = "), .int cpuid])

def mVxdbVxSchedGet (host : Host) : Call → Method Xml :=
  configGet host (cstr "m_vxdb_vx_sched_get") capSched owned (schedGetRequest host)
    fun rows => .array (rows.map fun row => .struct [intMember (cstr "cpuid") row 0,
      intMember (cstr "fillrate") row 1, intMember (cstr "interval") row 2,
      intMember (cstr "fillrate2") row 3, intMember (cstr "interval2") row 4,
      intMember (cstr "tokensmin") row 5, intMember (cstr "tokensmax") row 6])

def mVxdbVxLimitGet (host : Host) : Call → Method Xml :=
  configGet host (cstr "m_vxdb_vx_limit_get") capRlim owned
    (keyRequest (cstr "SELECT type,soft,max FROM vx_limit") (cstr "type") validateRlimit
      (cstr "invalid type value: ") []) fun rows =>
    .array (rows.map fun row =>
      let typedb := vxdbColumnText row 0
      let bytes (value : Int) := if limtype.contains typedb then pagestobytes host value
        else value
      .struct [(cstr "type", .str typedb),
        (cstr "soft", .str (decimal (bytes (vxdbColumnUint64 row 1)))),
        (cstr "max", .str (decimal (bytes (vxdbColumnUint64 row 2))))])

def mVxdbVxUnameGet (host : Host) : Call → Method Xml :=
  configGet host (cstr "m_vxdb_vx_uname_get") capUname owned
    (keyRequest (cstr "SELECT type,value FROM vx_uname") (cstr "type") validateUname
      (cstr "invalid type value: ") []) fun rows =>
    .array (rows.map fun row => .struct [textMember (cstr "type") row 0,
      textMember (cstr "value") row 1])

/-! ## Names, directories and owners -/

def sqlOwnerGet (xid : Int) : List Piece :=
  [.chars (cstr "SELECT user.name FROM user INNER JOIN xid_uid_map "),
    .chars (cstr "ON user.uid = xid_uid_map.uid WHERE xid_uid_map.xid = "), xidPiece xid]

def mVxdbOwnerGet (host : Host) : Call → Method Xml :=
  configGet host (cstr "m_vxdb_owner_get") capAuth {} (nameRequest sqlOwnerGet) textList

def mVxdbNameGet (host : Host) (call : Call) : Method Xml := do
  let params ← methodInit host call capInfo {}
  let xid ← ofExcept (params.getInt (cstr "xid"))
  match ← vxdbGetname (uint32 xid) with
  | none => fault .novps
  | some name => return .str name

def mVxdbXidGet (host : Host) (call : Call) : Method Xml := do
  let params ← methodInit host call capInfo {}
  let name ← ofExcept (params.getStr (cstr "name"))
  let xid ← vxdbGetxid name
  if xid = 0 then fault .novps
  return .int (int32 xid)

def mVxdbVdirGet (host : Host) (call : Call) : Method Xml := do
  let params ← methodInit host call capInfo {}
  let name ← ofExcept (params.getStr (cstr "name"))
  if (← vxdbGetxid name) = 0 then fault .novps
  return .str (← vxdbGetvdir host name)

def sqlListOfUser (uid : Int) : List Piece :=
  [.chars (cstr "SELECT xid_name_map.name FROM xid_name_map INNER JOIN xid_uid_map "),
    .chars (cstr "ON xid_name_map.xid = xid_uid_map.xid WHERE xid_uid_map.uid = "), .int uid,
    .chars (cstr " ORDER BY xid_name_map.name ASC")]

def sqlList : List Piece :=
  [.chars (cstr "SELECT name FROM xid_name_map ORDER BY name ASC")]

/-- The user whose servers are listed; zero lists all servers. -/
def listUid (curuser : Str) (user : Option Str) : Method Int := do
  if ← authIsadmin curuser then
    match user with
    | some user => authGetuid user
    | none => return 0
  else
    match user with
    | some user =>
        if curuser ≠ user then
          faultf .perm [.chars (cstr "cannot list foreign user: "), .str user]
    | none => pure ()
    authGetuid curuser

def mVxdbList (host : Host) (call : Call) : Method Xml := do
  let params ← methodInit host call capInfo {}
  let curuser ← match call with
    | .client credentials _ => ofExcept (credentials.getStr (cstr "username"))
    | .internal _ => .fail .request
  let user ← ofExcept (params.getStr (cstr "username"))
  let user := methodEmptyParam user
  match user with
  | some user =>
      if !validateUsername user then
        faultf .inval [.chars (cstr "invalid username value: "), .str user]
  | none => pure ()
  let uid ← listUid curuser user
  match ← vxdbPrepare (if uid ≠ 0 then sqlListOfUser uid else sqlList) with
  | none => vxdbFault (cstr "m_vxdb_list")
  | some [] => faultf .novps [.chars (cstr "no virtual servers found")]
  | some rows => return textList rows

/-! ## The daemon and its users -/

def mVcdLogin (host : Host) (call : Call) : Method Xml := do
  let _ ← methodInit host call 0 {}
  return .nil

def mVcdHostinfo (host : Host) (call : Call) : Method Xml := do
  let _ ← methodInit host call capInfo {}
  return .struct [(cstr "vbasedir", .str host.vbasedir), (cstr "cpus", .int host.nproc),
    (cstr "memnodes", .int (host.maxMemNode + 1))]

def sqlStatus : List Piece :=
  [.chars (cstr "SELECT uptime, requests, flogins, nomethod FROM vcd "),
    .chars (cstr "ORDER BY uptime DESC LIMIT 1")]

def mVcdStatus (host : Host) (call : Call) : Method Xml := do
  let _ ← methodInit host call capInfo {}
  match ← vxdbPrepare sqlStatus with
  | none => vxdbFault (cstr "m_vcd_status")
  | some [] => return .nil
  | some (row :: _) =>
      let now ← sys .time
      return .struct [(cstr "uptime", .int (now.rc - vxdbColumnInt row 0)),
        intMember (cstr "requests") row 1, intMember (cstr "flogins") row 2,
        intMember (cstr "nomethod") row 3]

def sqlUserCapsGet (uid : Int) : List Piece :=
  [.chars (cstr "SELECT cap FROM user_caps WHERE uid = "), .int uid]

def mVcdUserCapsGet (host : Host) (call : Call) : Method Xml := do
  let params ← methodInit host call capAuth {}
  let user ← ofExcept (params.getStr (cstr "username"))
  let uid ← authGetuid user
  if uid = 0 then fault .nouser
  match ← vxdbPrepare (sqlUserCapsGet uid) with
  | none => vxdbFault (cstr "m_vcd_user_caps_get")
  | some rows => return textList rows

def sqlUserGet (user : Option Str) : List Piece :=
  match user with
  | some user => [.chars (cstr "SELECT name,uid,admin FROM user WHERE name = '"), .str user,
      .chars (cstr "'")]
  | none => [.chars (cstr "SELECT name,uid,admin FROM user ORDER BY uid ASC")]

def mVcdUserGet (host : Host) (call : Call) : Method Xml := do
  let params ← methodInit host call capAuth {}
  let user ← ofExcept (params.getStr (cstr "username"))
  let user := methodEmptyParam user
  match user with
  | some user =>
      if !validateUsername user then
        faultf .inval [.chars (cstr "invalid username value: "), .str user]
  | none => pure ()
  match ← vxdbPrepare (sqlUserGet user) with
  | none => vxdbFault (cstr "m_vcd_user_get")
  | some rows => return .array (rows.map fun row =>
      .struct [textMember (cstr "username") row 0, intMember (cstr "uid") row 1,
        intMember (cstr "admin") row 2])

end Vcd
