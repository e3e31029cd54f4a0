import Vcd.Methods.Servers

/-!
# Kernel helpers

The `helper.*` methods, which the kernel calls when a context starts, restarts or shuts
down.
-/

namespace Vcd

open Sql Process

/-- The rows of a query, or the fault of a failing one. -/
def selectRows (function : Str) (sql : List Piece) : Method (List Row) := do
  match ← vxdbPrepare sql with
  | none => vxdbFault function
  | some rows => return rows

def selectXid (function select : Str) (xid : Int) : Method (List Row) :=
  selectRows function [.chars select, .chars (cstr " WHERE xid = "), xidPiece xid]

/-- The context id of a helper request and the name of its virtual server. -/
def helperTarget (host : Host) (call : Call) : Method (Int × Str) := do
  let params ← methodInit host call capHelper {}
  let xid ← ofExcept (params.getInt (cstr "xid"))
  let xid := uint32 xid
  match ← vxdbGetname xid with
  | none => fault .novps
  | some name => return (xid, name)

/-! ## helper.netup -/

def networkInterface (xid : Int) (host : Host) (row : Row) : Method Unit := do
  let buf := (vxdbColumnText row 0 ++ '/' :: vxdbColumnText row 1).take 30
  if host.addrFromStr buf = -1 then
    faultf .conf [.chars (cstr "invalid interface: "), .str buf]
  sysOrFault (cstr "network_interfaces") (cstr "nx_add_addr") (.nxAddrAdd xid buf false)

def networkBroadcast (xid : Int) (host : Host) (row : Row) : Method Unit := do
  let ip := vxdbColumnText row 0
  if host.addrFromStr ip ≠ 1 then
    faultf .conf [.chars (cstr "invalid broadcast: "), .str ip]
  sysOrFault (cstr "network_broadcast") (cstr "nx_add_addr") (.nxAddrAdd xid ip true)

def mHelperNetup (host : Host) (call : Call) : Method Xml := do
  let (xid, _) ← helperTarget host call
  if (← sys (.nxInfo xid)).rc = -1 then fault .stopped
  let rows ← selectXid (cstr "network_interfaces")
    (cstr "SELECT addr,netmask FROM nx_addr") xid
  rows.forM (networkInterface xid host)
  let rows ← selectXid (cstr "network_broadcast")
    (cstr "SELECT broadcast FROM nx_broadcast") xid
  rows.forM (networkBroadcast xid host)
  return .nil

/-! ## helper.restart and helper.shutdown -/

def sqlRestartInsert (xid : Int) : List Piece :=
  [.chars (cstr "INSERT OR REPLACE INTO restart (xid) VALUES ("), xidPiece xid,
    .chars (cstr ")")]

def mHelperRestart (host : Host) (call : Call) : Method Xml := do
  let (xid, _) ← helperTarget host call
  let outcome ← vxdbExec (sqlRestartInsert xid)
  if !outcome.ok then vxdbFault (cstr "m_helper_restart")
  return .nil

def sqlRestartDelete (xid : Int) : List Piece :=
  [.chars (cstr "DELETE FROM restart WHERE xid = "), xidPiece xid]

def cpusetPath (xid : Int) : Str :=
  cstr "/dev/cpuset/xid" ++ decimal (int32 xid)

/-- Remove the cpuset of a context if there is one. -/
def removeCpuset (xid : Int) : Method Unit := do
  if (← sys (.isdir (cpusetPath xid))).rc ≠ 0 then
    let _ ← sys (.rmdir (cpusetPath xid))

/-- Poll once a second until a call fails with ESRCH; what is left of the time. -/
def awaitGone (function message : Str) (poll : Sys) (late : List Piece) : Nat → Method Nat
  | 0 => faultf .busy late
  | seconds + 1 => do
      let _ ← sys .sleep
      let answer ← sys poll
      if answer.rc = -1 then
        if answer.errno = esrch then return seconds
        else sysFault function message
      else awaitGone function message poll late seconds

/-- The child waits for both contexts to disappear and starts the server again. The second
wait goes on from the second where the first one ended. -/
def shutdownChild (host : Host) (xid : Int) (name : Str) (timeout : Nat) : Method Empty := do
  let function := cstr "m_helper_shutdown"
  let left ← awaitGone function (cstr "nx_info") (.nxInfo xid)
    [.chars (cstr "network context "), xidPiece xid, .chars (cstr " did not disappear")] timeout
  let _ ← awaitGone function (cstr "vx_info") (.vxInfo xid)
    [.chars (cstr "context "), xidPiece xid, .chars (cstr " did not disappear")] left
  let _ ← (mVxStart host (.internal (nameParams name))).attempt
  .exit

def sqlTimeout (xid : Int) : List Piece :=
  [.chars (cstr "SELECT timeout FROM init WHERE xid = "), xidPiece xid]

def mHelperShutdown (host : Host) (call : Call) : Method Xml := do
  let function := cstr "m_helper_shutdown"
  let (xid, name) ← helperTarget host call
  if (← sys (.ismount (cstr "/dev/cpuset"))).rc ≠ 0 then removeCpuset xid
  let outcome ← vxdbExec (sqlRestartDelete xid)
  if !outcome.ok then vxdbFault function
  if outcome.changes < 1 then return .nil
  let timeout ← match ← vxdbPrepare (sqlTimeout xid) with
    | some (row :: _) => pure (vxdbColumnInt row 0)
    | _ => pure 15
  let timeout := if timeout < 1 then 15 else timeout
  sysOrFault function (cstr "fork") .fork
  Program.spawn (shutdownChild host xid name timeout.toNat)
  sysOrFault function (cstr "waitpid") .waitpid
  return .nil

/-! ## helper.startup -/

/-- The listed names among the texts of a column. -/
def listedTexts (list : List Str) (rows : List Row) : List Str :=
  (rows.map (vxdbColumnText · 0)).filter list.contains

def contextCapsAndFlags (xid : Int) : Method Unit := do
  let function := cstr "context_caps_and_flags"
  let bcaps ← selectXid function (cstr "SELECT bcap FROM vx_bcaps") xid
  sysOrFault function (cstr "vx_bcaps_set") (.vxBcapsSet xid (listedTexts bcapsList bcaps) (~~~0))
  let ccaps ← selectXid function (cstr "SELECT ccap FROM vx_ccaps") xid
  sysOrFault function (cstr "vx_ccaps_set") (.vxCcapsSet xid (listedTexts ccapsList ccaps) (~~~0))
  let flags ← selectXid function (cstr "SELECT flag FROM vx_flags") xid
  let cflags := listedTexts cflagsList flags
  sysOrFault function (cstr "vx_flags_set") (.vxFlagsSet xid cflags cflags)

def contextDiskLimits (host : Host) (xid : Int) (name : Str) : Method Unit := do
  let function := cstr "context_disk_limits"
  let vdir ← vxdbGetvdir host name
  let _ ← sys (.dxLimitRemove xid vdir)
  match ← selectXid function (cstr "SELECT space,inodes,reserved FROM dx_limit") xid with
  | [] => pure ()
  | row :: _ =>
      sysOrFault function (cstr "dx_limit_add") (.dxLimitAdd xid vdir)
      let used ← sys (.countInodes vdir xid)
      if used.rc = -1 then sysFault function (cstr "nftw")
      let usedSpace := uint32 (used.words.getD 0 0) / 2
      let usedInodes := uint32 (used.words.getD 1 0)
      sysOrFault function (cstr "dx_limit_set")
        (.dxLimitSet xid vdir usedSpace (max (vxdbColumnUint32 row 0) usedSpace)
          usedInodes (max (vxdbColumnUint32 row 1) usedInodes) (vxdbColumnInt row 2))

def contextResourceLimit (xid : Int) (row : Row) : Method Unit := do
  let type := vxdbColumnText row 0
  if rlimitList.contains type then
    let masked ← sys (.vxLimitMaskGet type)
    if masked.rc ≠ 0 then
      let soft := vxdbColumnUint64 row 1
      sysOrFault (cstr "context_resource_limits") (cstr "vx_limit_set")
        (.vxLimitSet xid type soft (max (vxdbColumnUint64 row 2) soft))

def contextResourceLimits (xid : Int) : Method Unit := do
  let function := cstr "context_resource_limits"
  sysOrFault function (cstr "vx_limit_mask_get") (.vxLimitMaskGet [])
  let rows ← selectXid function (cstr "SELECT type,soft,max FROM vx_limit") xid
  rows.forM (contextResourceLimit xid)

/-- Write a text to a file of the cpuset; the fault of a failing one is kept. -/
def writeCpuset (path text : Str) (environment : Option Fault) : Method (Option Fault) := do
  if (← sys (.openAppend path)).rc = -1 then
    return some (.sys (cstr "context_cpuset") (cstr "open_append(" ++ path ++ cstr ")"))
  let _ ← sys (.dprintf path text)
  return environment

def contextCpuset (xid : Int) : Method Unit := do
  if (← sys (.ismount (cstr "/dev/cpuset"))).rc ≠ 0 then
    let path := cpusetPath xid
    removeCpuset xid
    match ← selectXid (cstr "context_cpuset")
        (cstr "SELECT cpus,mems,virtualize FROM vx_cpuset") xid with
    | [] => pure ()
    | row :: _ =>
        if (← sys (.isdir path)).rc = 0 then
          let _ ← sys (.mkdir path)
        let environment ← writeCpuset (strPathConcat path (cstr "/cpus"))
          (vxdbColumnText row 0) none
        let environment ← writeCpuset (strPathConcat path (cstr "/mems"))
          (vxdbColumnText row 1) environment
        let virtualize := strPathConcat path (cstr "/virtualize")
        let environment ← if (← sys (.ispath virtualize)).rc = 0 then pure environment
          else writeCpuset virtualize (decimal (vxdbColumnInt row 2)) environment
        match environment with
        | some fault => .fail fault
        | none => pure ()

def contextSchedulerRow (host : Host) (xid : Int) (row : Row) : Method Unit := do
  let cpuid := vxdbColumnInt row 0
  if cpuid < host.nproc then
    let value (index : Nat) := vxdbColumnInt row index
    sysOrFault (cstr "context_scheduler") (cstr "vx_sched_set")
      (.vxSchedSet xid (if cpuid ≥ 0 then some cpuid else none) (value 1) (value 3) (value 2)
        (value 4) (value 5) (value 6) (value 2 > 0 && value 4 > 0))

def sqlScheduler (xid : Int) : List Piece :=
  [.chars (cstr "SELECT cpuid,fillrate,fillrate2,interval,interval2,tokensmin,tokensmax "),
    .chars (cstr "FROM vx_sched WHERE xid = "), xidPiece xid, .chars (cstr " ORDER BY cpuid ASC")]

def contextScheduler (host : Host) (xid : Int) : Method Unit := do
  let rows ← selectRows (cstr "context_scheduler") (sqlScheduler xid)
  rows.forM (contextSchedulerRow host xid)

def contextUnameRow (xid : Int) (row : Row) : Method Unit := do
  let type := vxdbColumnText row 0
  if unameList.contains type then
    sysOrFault (cstr "context_uname") (cstr "vx_uname_set")
      (.vxUnameSet xid type ((vxdbColumnText row 1).take 64))

def contextUname (xid : Int) (name vdir : Str) : Method Unit := do
  let function := cstr "context_uname"
  let rows ← selectXid function (cstr "SELECT type,value FROM vx_uname") xid
  rows.forM (contextUnameRow xid)
  if !strIsempty name then
    sysOrFault function (cstr "vx_uname_set")
      (.vxUnameSet xid (cstr "CONTEXT") ((name ++ ':' :: vdir).take 64))

def namespaceChild (xid : Int) : Method Empty := do
  let _ ← sys (.nsSet xid)
  .exit

def namespaceSetup (xid : Int) : Method Unit := do
  let function := cstr "namespace_setup"
  sysOrFault function (cstr "ns_clone") .nsClone
  Program.spawn (namespaceChild xid)
  let status ← sys .waitpid
  if status.rc = -1 then sysFault function (cstr "waitpid")
  if status.words.headD 0 ≠ 0 then sysFault function (cstr "ns_set")

def mountChild (xid : Int) (vdir dst command : Str) : Method Empty := do
  if (← sys (.nsEnter xid)).rc ≠ -1 then
    if (← sys (.chrootSecureChdir vdir dst)).rc ≠ -1 then
      let _ ← sys (.execReplace command)
  .exit

def doMount (xid : Int) (vdir : Str) (mtab : Bool) (row : Row) : Method Unit := do
  let function := cstr "do_mount"
  let src := vxdbColumnText row 0
  let dst := vxdbColumnText row 1
  let type := if strIsempty (vxdbColumnText row 2) then cstr "auto" else vxdbColumnText row 2
  let opts := if strIsempty (vxdbColumnText row 3) then cstr "defaults"
    else vxdbColumnText row 3
  let command (target : Str) := render [.chars (cstr "/bin/mount -n -t "), .str type,
    .chars (cstr " -o "), .str opts, .chars (cstr " "), .str src, .chars (cstr " "),
    .str target]
  sysOrFault function (cstr "fork") .fork
  Program.spawn (mountChild xid vdir dst (command (cstr ".")))
  let status ← sys .waitpid
  if status.rc = -1 then sysFault function (cstr "waitpid")
  if status.words.headD 0 ≠ 0 then
    .fail (.code (meexec + status.words.headD 0)
      (cstr "command '" ++ command dst ++ cstr "' failed"))
  -- of a command that was killed the signal is told as well
  if status.words.getD 1 0 ≠ 0 then
    .fail (.code meexec (cstr "command '" ++ command dst ++ cstr "' caught signal: " ++
      status.text))
  if mtab then
    let _ ← sys (.dprintf (cstr "mtab") (render [.str src, .chars (cstr " "), .str dst,
      .chars (cstr " "), .str type, .chars (cstr " "), .str opts, .chars (cstr " 0 0\n")]))

def sqlRootMount (xid : Int) : List Piece :=
  [.chars (cstr "SELECT src,dst,type,opts FROM mount WHERE xid = "), xidPiece xid,
    .chars (cstr " AND dst = '/'")]

def namespaceMount (xid : Int) (vdir : Str) : Method Unit := do
  let function := cstr "namespace_mount"
  match ← vxdbPrepare (sqlRootMount xid) with
  | some (row :: _) => doMount xid vdir false row
  | _ => pure ()
  sysOrFault function (cstr "chroot_secure_chdir(/etc)")
    (.chrootSecureChdir vdir (cstr "/etc"))
  let _ ← sys (.unlink (cstr "mtab"))
  sysOrFault function (cstr "open_trunc(/etc/mtab)") (.openTrunc (cstr "mtab"))
  let _ ← sys (.dprintf (cstr "mtab") (cstr "/dev/root / ufs defaults 0 0\n"))
  let rows ← selectXid function (cstr "SELECT src,dst,type,opts FROM mount") xid
  rows.forM (doMount xid vdir true)

def sqlInit (xid : Int) : List Piece :=
  [.chars (cstr "SELECT init FROM init WHERE xid = "), xidPiece xid]

def mHelperStartup (host : Host) (call : Call) : Method Xml := do
  let (xid, name) ← helperTarget host call
  if (← sys (.vxInfo xid)).rc = -1 then fault .stopped
  let vdir ← vxdbGetvdir host name
  let rows ← selectRows (cstr "m_helper_startup") (sqlInit xid)
  let init := rows.foldl (fun _ row => vxdbColumnText row 0) (cstr "/sbin/init")
  contextCapsAndFlags xid
  contextDiskLimits host xid name
  contextResourceLimits xid
  contextCpuset xid
  contextScheduler host xid
  namespaceSetup xid
  contextUname xid name vdir
  namespaceMount xid vdir
  return .struct [(cstr "vdir", .str vdir), (cstr "init", .str init)]

end Vcd
