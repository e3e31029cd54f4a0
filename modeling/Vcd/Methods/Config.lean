import Vcd.Methods

/-!
# Configuration methods

The `vxdb.*` methods. Setters and removers of configuration differ only in how they read
their parameters and in the statement they execute, so each is an instance of one
definition; so are the getters.
-/

namespace Vcd

open Sql Process

/-! ## Writers of configuration -/

/-- A method for the owner of a virtual server that checks its parameters, looks the
context id up and executes one statement. -/
def configWrite (host : Host) (function : Str) (cap : UInt64)
    (request : Xml → Except Fault (Str × (Int → List Piece))) (call : Call) : Method Xml := do
  let params ← methodInit host call cap { owner := true, lock := true }
  let (name, sql) ← ofExcept (request params)
  let xid ← vxdbGetxid name
  if xid = 0 then fault .novps
  let outcome ← vxdbExec (sql xid)
  if !outcome.ok then vxdbFault function
  return .nil

/-- Remove all rows of a context from a table. -/
def sqlRemove (table : Table) (xid : Int) : List Piece :=
  [.chars (cstr "DELETE FROM "), .chars table.name, .chars (cstr " WHERE xid = "),
    xidPiece xid]

/-- Remove the row of a context with a certain text in one column. -/
def sqlRemoveKey (table : Table) (key : Str) (xid : Int) (value : Str) : List Piece :=
  [.chars (cstr "DELETE FROM "), .chars table.name, .chars (cstr " WHERE xid = "),
    xidPiece xid, .chars (cstr " AND "), .chars key, .chars (cstr " = '"), .str value,
    .chars (cstr "'")]

/-- The statement of a remover with an optional key. -/
def sqlRemoveOptional (table : Table) (key : Str) (value : Option Str) (xid : Int) :
    List Piece :=
  match value with
  | some value => sqlRemoveKey table key xid value
  | none => sqlRemove table xid

/-- Add a name to the list of a context. -/
def sqlAdd (table : Table) (key : Str) (value : Str) (xid : Int) : List Piece :=
  [.chars (cstr "INSERT OR REPLACE INTO "), .chars table.name, .chars (cstr " (xid, "),
    .chars key, .chars (cstr ") VALUES ("), xidPiece xid, .chars (cstr ", '"), .str value,
    .chars (cstr "')")]

def removeAllRequest (table : Table) (params : Xml) :
    Except Fault (Str × (Int → List Piece)) := do
  let name ← params.getStr (cstr "name")
  return (name, sqlRemove table)

/-- Read a name and an optional key that must be valid if it is given. -/
def removeKeyRequest (table : Table) (key : Str) (valid : Str → Bool) (message : Str)
    (params : Xml) : Except Fault (Str × (Int → List Piece)) := do
  let name ← params.getStr (cstr "name")
  let value ← params.getStr key
  let value := methodEmptyParam value
  match value with
  | some value => if !valid value then refuse .inval [.chars message, .str value]
  | none => pure ()
  return (name, sqlRemoveOptional table key value)

def addRequest (table : Table) (key : Str) (valid : Str → Bool) (message : Str)
    (params : Xml) : Except Fault (Str × (Int → List Piece)) := do
  let name ← params.getStr (cstr "name")
  let value ← params.getStr key
  if !valid value then refuse .inval [.chars message, .str value]
  return (name, sqlAdd table key value)

/-! ### Disk limits -/

/-- Scan an unsigned number into a variable that has a value already. -/
def scanUnsigned (wrap : Int → Int) (initial : Int) (text : Str) : Int :=
  if text = [] then initial else wrap (scanDigits text)

def sqlDxLimitSet (space inodes reserved xid : Int) : List Piece :=
  [.chars (cstr "INSERT OR REPLACE INTO dx_limit (xid, space, inodes, reserved) VALUES ("),
    xidPiece xid, .chars (cstr ", '"), .int space, .chars (cstr "', '"), .int inodes,
    .chars (cstr "', "), .int reserved, .chars (cstr ")")]

def dxLimitSetRequest (params : Xml) : Except Fault (Str × (Int → List Piece)) := do
  let name ← params.getStr (cstr "name")
  let spacep ← params.getStr (cstr "space")
  let inodesp ← params.getStr (cstr "inodes")
  let reserved ← params.getInt (cstr "reserved")
  if !strIsdigit spacep then
    refuse .inval [.chars (cstr "space value is not a number: "), .str spacep]
  if !strIsdigit inodesp then
    refuse .inval [.chars (cstr "inodes value is not a number: "), .str inodesp]
  let space := scanUnsigned uint32 cdlimKeep spacep
  let inodes := scanUnsigned uint32 cdlimKeep inodesp
  if !validateDlimits space inodes reserved then
    refuse .inval [.chars (cstr "invalid limit specification: "), .int space,
      .chars (cstr ","), .int inodes, .chars (cstr ","), .int reserved]
  return (name, sqlDxLimitSet space inodes reserved)

def mVxdbDxLimitSet (host : Host) : Call → Method Xml :=
  configWrite host (cstr "m_vxdb_dx_limit_set") capDlim dxLimitSetRequest

def mVxdbDxLimitRemove (host : Host) : Call → Method Xml :=
  configWrite host (cstr "m_vxdb_dx_limit_remove") capDlim (removeAllRequest .dxLimit)

/-! ### Init -/

def sqlInitSet (init halt reboot : Str) (timeout xid : Int) : List Piece :=
  [.chars (cstr "INSERT OR REPLACE INTO init (xid, init, halt, reboot, timeout) VALUES ("),
    xidPiece xid, .chars (cstr ", '"), .str init, .chars (cstr "', '"), .str halt,
    .chars (cstr "', '"), .str reboot, .chars (cstr "', "), .int timeout, .chars (cstr ")")]

def initSetRequest (params : Xml) : Except Fault (Str × (Int → List Piece)) := do
  let name ← params.getStr (cstr "name")
  let init ← params.getStr (cstr "init")
  let halt ← params.getStr (cstr "halt")
  let reboot ← params.getStr (cstr "reboot")
  let timeout ← params.getInt (cstr "timeout")
  let init := (methodEmptyParam init).getD (cstr "/sbin/init")
  let halt := (methodEmptyParam halt).getD (cstr "/sbin/halt")
  let reboot := (methodEmptyParam reboot).getD (cstr "/sbin/reboot")
  if !strPathIsabs init then
    refuse .inval [.chars (cstr "invalid init value: "), .str init]
  if !strPathIsabs halt then
    refuse .inval [.chars (cstr "invalid halt value: "), .str halt]
  if !strPathIsabs reboot then
    refuse .inval [.chars (cstr "invalid reboot value: "), .str reboot]
  return (name, sqlInitSet init halt reboot timeout)

def mVxdbInitSet (host : Host) : Call → Method Xml :=
  configWrite host (cstr "m_vxdb_init_set") capInit initSetRequest

/-! ### Mounts -/

def sqlMountSet (src dst type opts : Str) (xid : Int) : List Piece :=
  [.chars (cstr "INSERT OR REPLACE INTO mount (xid, src, dst, type, opts) VALUES ("),
    xidPiece xid, .chars (cstr ", '"), .str src, .chars (cstr "', '"), .str dst,
    .chars (cstr "', '"), .str type, .chars (cstr "', '"), .str opts, .chars (cstr "')")]

def mountSetRequest (params : Xml) : Except Fault (Str × (Int → List Piece)) := do
  let name ← params.getStr (cstr "name")
  let src ← params.getStr (cstr "src")
  let dst ← params.getStr (cstr "dst")
  let type ← params.getStr (cstr "type")
  let opts ← params.getStr (cstr "opts")
  let src := methodEmptyParam src
  let type := methodEmptyParam type
  let opts := methodEmptyParam opts
  if !validatePath dst then
    refuse .inval [.chars (cstr "invalid dst value: "), .str dst]
  if src.isNone && type.isNone then
    refuse .inval [.chars (cstr "neither src nor type value specified")]
  return (name, sqlMountSet (src.getD (cstr "none")) dst (type.getD (cstr "auto"))
    (opts.getD (cstr "defaults")))

def mVxdbMountSet (host : Host) : Call → Method Xml :=
  configWrite host (cstr "m_vxdb_mount_set") capMount mountSetRequest

def mVxdbMountRemove (host : Host) : Call → Method Xml :=
  configWrite host (cstr "m_vxdb_mount_remove") capMount
    (removeKeyRequest .mount (cstr "dst") validatePath (cstr "invalid dst value: "))

/-! ### Network addresses -/

def sqlNxAddrSet (addr netmask : Str) (xid : Int) : List Piece :=
  [.chars (cstr "INSERT OR REPLACE INTO nx_addr (xid, addr, netmask) VALUES ("),
    xidPiece xid, .chars (cstr ", '"), .str addr, .chars (cstr "', '"), .str netmask,
    .chars (cstr "')")]

def nxAddrSetRequest (host : Host) (params : Xml) :
    Except Fault (Str × (Int → List Piece)) := do
  let name ← params.getStr (cstr "name")
  let addr ← params.getStr (cstr "addr")
  let netmask ← params.getStr (cstr "netmask")
  let netmask := methodEmptyParam netmask
  if !validateAddr host addr then
    refuse .inval [.chars (cstr "invalid addr value: "), .str addr]
  match netmask with
  | some netmask =>
      if !validateAddr host netmask then
        refuse .inval [.chars (cstr "invalid netmask value: "), .str netmask]
  | none => pure ()
  return (name, sqlNxAddrSet addr (netmask.getD (cstr "255.255.255.255")))

def mVxdbNxAddrSet (host : Host) : Call → Method Xml :=
  configWrite host (cstr "m_vxdb_nx_addr_set") capNet (nxAddrSetRequest host)

def mVxdbNxAddrRemove (host : Host) : Call → Method Xml :=
  configWrite host (cstr "m_vxdb_nx_addr_remove") capNet
    (removeKeyRequest .nxAddr (cstr "addr") (validateAddr host) (cstr "invalid addr value: "))

def mVxdbNxBroadcastSet (host : Host) : Call → Method Xml :=
  configWrite host (cstr "m_vxdb_nx_broadcast_set") capNet
    (addRequest .nxBroadcast (cstr "broadcast") (validateAddr host)
      (cstr "invalid broadcast value: "))

def mVxdbNxBroadcastRemove (host : Host) : Call → Method Xml :=
  configWrite host (cstr "m_vxdb_nx_broadcast_remove") capNet (removeAllRequest .nxBroadcast)

/-! ### Capabilities and flags -/

def mVxdbVxBcapsAdd (host : Host) : Call → Method Xml :=
  configWrite host (cstr "m_vxdb_vx_bcaps_add") capBcap
    (addRequest .vxBcaps (cstr "bcap") validateBcap (cstr "invalid bcap value: "))

def mVxdbVxBcapsRemove (host : Host) : Call → Method Xml :=
  configWrite host (cstr "m_vxdb_vx_bcaps_remove") capBcap
    (removeKeyRequest .vxBcaps (cstr "bcap") validateBcap (cstr "invalid bcap value: "))

def mVxdbVxCcapsAdd (host : Host) : Call → Method Xml :=
  configWrite host (cstr "m_vxdb_vx_ccaps_add") capCcap
    (addRequest .vxCcaps (cstr "ccap") validateCcap (cstr "invalid ccap value: "))

def mVxdbVxCcapsRemove (host : Host) : Call → Method Xml :=
  configWrite host (cstr "m_vxdb_vx_ccaps_remove") capCcap
    (removeKeyRequest .vxCcaps (cstr "ccap") validateCcap (cstr "invalid ccap value: "))

def mVxdbVxFlagsAdd (host : Host) : Call → Method Xml :=
  configWrite host (cstr "m_vxdb_vx_flags_add") capCflag
    (addRequest .vxFlags (cstr "flag") validateCflag (cstr "invalid flag value: "))

def mVxdbVxFlagsRemove (host : Host) : Call → Method Xml :=
  configWrite host (cstr "m_vxdb_vx_flags_remove") capCflag
    (removeKeyRequest .vxFlags (cstr "flag") validateCflag (cstr "invalid flag value: "))

/-! ### Scheduling -/

def sqlVxCpusetSet (cpus mems : Str) (virtualize : Int) (xid : Int) : List Piece :=
  [.chars (cstr "INSERT OR REPLACE INTO vx_cpuset (xid, cpus, mems, virtualize) VALUES ("),
    xidPiece xid, .chars (cstr ", '"), .str cpus, .chars (cstr "', '"), .str mems,
    .chars (cstr "', "), .int virtualize, .chars (cstr ")")]

def vxCpusetSetRequest (host : Host) (params : Xml) :
    Except Fault (Str × (Int → List Piece)) := do
  let name ← params.getStr (cstr "name")
  let cpus ← params.getStr (cstr "cpus")
  let mems ← params.getStr (cstr "mems")
  let virtualize ← params.getBool (cstr "virtualize")
  if !validateCpuset host cpus 0 then
    refuse .inval [.chars (cstr "invalid cpus specification: "), .str cpus]
  if !validateCpuset host mems 1 then
    refuse .inval [.chars (cstr "invalid mems specification: "), .str mems]
  return (name, sqlVxCpusetSet cpus mems virtualize.toInt)

def mVxdbVxCpusetSet (host : Host) : Call → Method Xml :=
  configWrite host (cstr "m_vxdb_vx_cpuset_set") capSched (vxCpusetSetRequest host)

def mVxdbVxCpusetRemove (host : Host) : Call → Method Xml :=
  configWrite host (cstr "m_vxdb_vx_cpuset_remove") capSched (removeAllRequest .vxCpuset)

def sqlVxSchedSet (fillrate interval fillrate2 interval2 tokensmin tokensmax cpuid xid : Int) :
    List Piece :=
  [.chars (cstr "INSERT OR REPLACE INTO vx_sched (xid, fillrate, interval, fillrate2, "),
    .chars (cstr "interval2, tokensmin, tokensmax, cpuid) VALUES ("), xidPiece xid, .chars (cstr ", "),
    .int fillrate, .chars (cstr ", "), .int interval, .chars (cstr ", "), .int fillrate2,
    .chars (cstr ", "), .int interval2, .chars (cstr ", "), .int tokensmin,
    .chars (cstr ", "), .int tokensmax, .chars (cstr ", "), .int cpuid, .chars (cstr ")")]

def vxSchedSetRequest (host : Host) (params : Xml) :
    Except Fault (Str × (Int → List Piece)) := do
  let name ← params.getStr (cstr "name")
  let cpuid ← params.getInt (cstr "cpuid")
  let fillrate ← params.getInt (cstr "fillrate")
  let interval ← params.getInt (cstr "interval")
  let fillrate2 ← params.getInt (cstr "fillrate2")
  let interval2 ← params.getInt (cstr "interval2")
  let tokensmin ← params.getInt (cstr "tokensmin")
  let tokensmax ← params.getInt (cstr "tokensmax")
  if !validateCpuid host cpuid then
    refuse .inval [.chars (cstr "cpuid out of range: "), .int cpuid]
  if !validateTokenBucket fillrate interval fillrate2 interval2 tokensmin tokensmax then
    refuse .inval [.chars (cstr "invalid bucket specification: "), .int fillrate,
      .chars (cstr ","), .int interval, .chars (cstr ","), .int fillrate2,
      .chars (cstr ","), .int interval2, .chars (cstr ","), .int tokensmin,
      .chars (cstr ","), .int tokensmax]
  return (name, sqlVxSchedSet fillrate interval fillrate2 interval2 tokensmin tokensmax cpuid)

def mVxdbVxSchedSet (host : Host) : Call → Method Xml :=
  configWrite host (cstr "m_vxdb_vx_sched_set") capSched (vxSchedSetRequest host)

def sqlVxSchedRemoveCpu (cpuid xid : Int) : List Piece :=
  [.chars (cstr "DELETE FROM vx_sched WHERE xid = "), xidPiece xid,
    .chars (cstr " AND cpuid = "), .int cpuid]

/-- The cpuid -2 stands for all processors; -1 is a valid id of its own. -/
def vxSchedRemoveRequest (host : Host) (params : Xml) :
    Except Fault (Str × (Int → List Piece)) := do
  let name ← params.getStr (cstr "name")
  let cpuid ← params.getInt (cstr "cpuid")
  if !validateCpuid host cpuid && cpuid ≠ -2 then
    refuse .inval [.chars (cstr "cpuid out of range: "), .int cpuid]
  return (name, if cpuid = -2 then sqlRemove .vxSched else sqlVxSchedRemoveCpu cpuid)

def mVxdbVxSchedRemove (host : Host) : Call → Method Xml :=
  configWrite host (cstr "m_vxdb_vx_sched_remove") capSched (vxSchedRemoveRequest host)

/-! ### Resource limits -/

/-- The limits counted in pages. -/
def limtype : List Str :=
  [cstr "ANON", cstr "AS", cstr "MAPPED", cstr "MEMLOCK", cstr "RSS", cstr "SHMEM"]

def bytestopages (host : Host) (bytes : Int) : Int :=
  uint64 (bytes * 1024) / host.pagesize

def pagestobytes (host : Host) (pages : Int) : Int :=
  uint64 (pages * host.pagesize) / 1024

def sqlVxLimitSet (type : Str) (soft max xid : Int) : List Piece :=
  [.chars (cstr "INSERT OR REPLACE INTO vx_limit (xid, type, soft, max) VALUES ("),
    xidPiece xid, .chars (cstr ", '"), .str type, .chars (cstr "', '"), .int soft,
    .chars (cstr "', '"), .int max, .chars (cstr "')")]

def vxLimitSetRequest (host : Host) (params : Xml) :
    Except Fault (Str × (Int → List Piece)) := do
  let name ← params.getStr (cstr "name")
  let type ← params.getStr (cstr "type")
  let softp ← params.getStr (cstr "soft")
  let maxp ← params.getStr (cstr "max")
  if !strIsdigit softp then
    refuse .inval [.chars (cstr "soft value is not a number: "), .str softp]
  if !strIsdigit maxp then
    refuse .inval [.chars (cstr "max value is not a number: "), .str maxp]
  let soft := scanUnsigned uint64 crlimKeep softp
  let max := scanUnsigned uint64 crlimKeep maxp
  if !validateRlimit type then
    refuse .inval [.chars (cstr "invalid type value: "), .str type]
  if !validateRlimits soft max then
    refuse .inval [.chars (cstr "invalid limit specification: "), .int soft,
      .chars (cstr ","), .int max]
  let (soft, max) := if limtype.contains type
    then (bytestopages host soft, bytestopages host max) else (soft, max)
  return (name, sqlVxLimitSet type soft max)

def mVxdbVxLimitSet (host : Host) : Call → Method Xml :=
  configWrite host (cstr "m_vxdb_vx_limit_set") capRlim (vxLimitSetRequest host)

def mVxdbVxLimitRemove (host : Host) : Call → Method Xml :=
  configWrite host (cstr "m_vxdb_vx_limit_remove") capRlim
    (removeKeyRequest .vxLimit (cstr "type") validateRlimit (cstr "invalid type value: "))

/-! ### System names -/

def sqlVxUnameSet (type value : Str) (xid : Int) : List Piece :=
  [.chars (cstr "INSERT OR REPLACE INTO vx_uname (xid, type, value) VALUES ("),
    xidPiece xid, .chars (cstr ", '"), .str type, .chars (cstr "', '"), .str value,
    .chars (cstr "')")]

def vxUnameSetRequest (params : Xml) : Except Fault (Str × (Int → List Piece)) := do
  let name ← params.getStr (cstr "name")
  let type ← params.getStr (cstr "type")
  let value ← params.getStr (cstr "value")
  if !validateUname type then
    refuse .inval [.chars (cstr "invalid type value: "), .str type]
  if !validateUnameValue value then
    refuse .inval [.chars (cstr "invalid uname-value value: "), .str value]
  return (name, sqlVxUnameSet type value)

def mVxdbVxUnameSet (host : Host) : Call → Method Xml :=
  configWrite host (cstr "m_vxdb_vx_uname_set") capUname vxUnameSetRequest

def mVxdbVxUnameRemove (host : Host) : Call → Method Xml :=
  configWrite host (cstr "m_vxdb_vx_uname_remove") capUname
    (removeKeyRequest .vxUname (cstr "type") validateUname (cstr "invalid type value: "))

end Vcd
