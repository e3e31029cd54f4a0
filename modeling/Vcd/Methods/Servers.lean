import Vcd.Methods.Config

/-!
# Life cycle of virtual servers

The `vx.*` methods except `vx.create`. A method body that is observed runs `inside` a mark
that names it and its virtual server.
-/

namespace Vcd

open Sql Process

/-- Fail unless the context runs. -/
def requireRunning (function : Str) (xid : Int) : Method Unit := do
  let info ← sys (.vxInfo xid)
  if info.rc = -1 then
    if info.errno = esrch then fault .stopped
    else sysFault function (cstr "vx_info")

/-- A call that fails the request if it returns -1. -/
def sysOrFault (function message : Str) (call : Sys) : Method Unit := do
  let answer ← sys call
  if answer.rc = -1 then sysFault function message

def nameParams (name : Str) : Xml :=
  .struct [(cstr "name", .str name)]

/-! ## vx.start -/

/-- The child creates both contexts and exits. -/
def vxStartChild (xid : Int) : Method Empty := do
  let _ ← sys (.nxCreate xid)
  let _ ← sys (.vxCreate xid)
  .exit

def vxStartBody (name : Str) : Method Xml := do
  let function := cstr "m_vx_start"
  let xid ← vxdbGetxid name
  if xid = 0 then fault .novps
  let _ ← sys (.nxFlagsSet xid [cstr "PERSISTENT"])
  let _ ← sys (.vxFlagsSet xid [] [cstr "PERSISTENT"])
  if (← sys (.vxInfo xid)).rc = 0 then fault .running
  sysOrFault function (cstr "pipe") .pipe
  sysOrFault function (cstr "fork") .fork
  Program.spawn (vxStartChild xid)
  let output ← sys .readfile
  let status ← sys .waitpid
  -- a later fault replaces an earlier one, and all of them are set before returning
  if status.rc = -1 then sysFault function (cstr "waitpid")
  if status.words.headD 0 ≠ 0 then
    faultf .sys [.chars (cstr "startup failed: "), .str output.text]
  if output.rc = -1 then sysFault function (cstr "str_readfile")
  return .nil

def mVxStart (host : Host) (call : Call) : Method Xml := do
  let params ← methodInit host call capInit { owner := true, lock := true }
  let name ← ofExcept (params.getStr (cstr "name"))
  inside .start name (vxStartBody name)

/-! ## vx.exec -/

def vxExecChild (xid : Int) (command : Str) : Method Empty := do
  let migrated ← sys (.vxMigrate xid)
  if migrated.rc ≠ -1 then
    let _ ← sys (.execReplace command)
  .exit

def mVxExec (host : Host) (call : Call) : Method Xml := do
  let function := cstr "m_vx_exec"
  let params ← methodInit host call capExec { owner := true }
  let name ← ofExcept (params.getStr (cstr "name"))
  let command ← ofExcept (params.getStr (cstr "command"))
  let xid ← vxdbGetxid name
  if xid = 0 then fault .novps
  requireRunning function xid
  let vdir ← vxdbGetvdir host name
  sysOrFault function (cstr "ns_enter") (.nsEnter xid)
  sysOrFault function (cstr "chroot_secure_chdir") (.chrootSecureChdir vdir (cstr "/"))
  sysOrFault function (cstr "chroot") .chroot
  sysOrFault function (cstr "nx_migrate") (.nxMigrate xid)
  sysOrFault function (cstr "pipe") .pipe
  sysOrFault function (cstr "fork") .fork
  Program.spawn (vxExecChild xid command)
  let output ← sys .readfile
  if output.rc = -1 then sysFault function (cstr "str_readfile")
  let status ← sys .waitpid
  if status.rc = -1 then sysFault function (cstr "waitpid")
  if status.words.headD 0 ≠ 0 then
    .fail (.code (meexec + status.words.headD 0) output.text)
  return .str output.text

/-! ## vx.stop, vx.reboot and vx.restart -/

/-- Wait for the context to disappear. -/
def awaitStop (xid : Int) : Nat → Method Xml
  | 0 => faultf .busy [.chars (cstr "vx still alive after timeout (-1)")]
  | seconds + 1 => do
      let info ← sys (.vxInfo xid)
      if info.rc = -1 then
        if info.errno = esrch then return .nil
        else sysFault (cstr "m_vx_stop") (cstr "vx_info")
      else
        let _ ← sys .sleep
        awaitStop xid seconds

def sqlStop (xid : Int) : List Piece :=
  [.chars (cstr "SELECT halt,timeout FROM init WHERE xid = "), xidPiece xid]

def vxStopBody (host : Host) (name : Str) : Method Xml := do
  let function := cstr "m_vx_stop"
  let xid ← vxdbGetxid name
  if xid = 0 then fault .novps
  requireRunning function xid
  match ← vxdbPrepare (sqlStop xid) with
  | none => vxdbFault function
  | some rows =>
      let (halt, timeout) := rows.foldl (fun _ row =>
        let timeout := vxdbColumnInt row 1
        (vxdbColumnText row 0, if timeout < 1 then 15 else timeout))
        (cstr "/sbin/halt", 15)
      let _ ← mVxExec host (.internal
        (.struct [(cstr "name", .str name), (cstr "command", .str halt)]))
      awaitStop xid timeout.toNat

def mVxStop (host : Host) (call : Call) : Method Xml := do
  let params ← methodInit host call capInit { owner := true, lock := true }
  let name ← ofExcept (params.getStr (cstr "name"))
  inside .stop name (vxStopBody host name)

def sqlReboot (xid : Int) : List Piece :=
  [.chars (cstr "SELECT reboot FROM init WHERE xid = "), xidPiece xid]

def vxRebootBody (host : Host) (name : Str) : Method Xml := do
  let function := cstr "m_vx_reboot"
  let xid ← vxdbGetxid name
  if xid = 0 then fault .novps
  requireRunning function xid
  match ← vxdbPrepare (sqlReboot xid) with
  | none => vxdbFault function
  | some rows =>
      let reboot := rows.foldl (fun _ row => vxdbColumnText row 0) (cstr "/sbin/reboot")
      mVxExec host (.internal
        (.struct [(cstr "name", .str name), (cstr "command", .str reboot)]))

def mVxReboot (host : Host) (call : Call) : Method Xml := do
  let params ← methodInit host call capInit { owner := true, lock := true }
  let name ← ofExcept (params.getStr (cstr "name"))
  inside .reboot name (vxRebootBody host name)

def mVxRestart (host : Host) (call : Call) : Method Xml := do
  let params ← methodInit host call capInit { owner := true, lock := true }
  let name ← ofExcept (params.getStr (cstr "name"))
  inside .restart name do
    let _ ← mVxStop host (.internal params)
    mVxStart host (.internal params)

/-! ## vx.kill -/

def mVxKill (host : Host) (call : Call) : Method Xml := do
  let function := cstr "m_vx_kill"
  let params ← methodInit host call capInit { owner := true, lock := true }
  let name ← ofExcept (params.getStr (cstr "name"))
  let pid ← ofExcept (params.getInt (cstr "pid"))
  let sig ← ofExcept (params.getInt (cstr "sig"))
  let xid ← vxdbGetxid name
  if xid = 0 then fault .novps
  requireRunning function xid
  sysOrFault function (cstr "vx_kill") (.vxKill xid pid sig)
  return .nil

/-! ## vx.remove -/

/-- The tables `vx.remove` deletes from, in order. -/
def removedTables : List Table :=
  [.dxLimit, .init, .mount, .nxAddr, .nxBroadcast, .restart, .vdir, .vxBcaps, .vxCcaps,
    .vxFlags, .vxLimit, .vxSched, .vxUname, .xidGidMap, .xidNameMap, .xidUidMap]

/-- The source aligns its statements with blanks after the table name. -/
def sqlDeleteXid (aligned : Str) (xid : Int) : List Piece :=
  [.chars (cstr "DELETE FROM "), .chars aligned, .chars (cstr " WHERE xid = "), xidPiece xid,
    .chars (cstr ";")]

def sqlVxRemove (xid : Int) : List Piece :=
  .chars (cstr "BEGIN EXCLUSIVE TRANSACTION;") ::
    sqlDeleteXid (cstr "dx_limit    ") xid ++ sqlDeleteXid (cstr "init        ") xid ++
    sqlDeleteXid (cstr "mount       ") xid ++ sqlDeleteXid (cstr "nx_addr     ") xid ++
    sqlDeleteXid (cstr "nx_broadcast") xid ++ sqlDeleteXid (cstr "restart     ") xid ++
    sqlDeleteXid (cstr "vdir        ") xid ++ sqlDeleteXid (cstr "vx_bcaps    ") xid ++
    sqlDeleteXid (cstr "vx_ccaps    ") xid ++ sqlDeleteXid (cstr "vx_flags    ") xid ++
    sqlDeleteXid (cstr "vx_limit    ") xid ++ sqlDeleteXid (cstr "vx_sched    ") xid ++
    sqlDeleteXid (cstr "vx_uname    ") xid ++ sqlDeleteXid (cstr "xid_gid_map ") xid ++
    sqlDeleteXid (cstr "xid_name_map") xid ++ sqlDeleteXid (cstr "xid_uid_map ") xid ++
    [.chars (cstr "COMMIT TRANSACTION;")]

def vxRemoveBody (host : Host) (name : Str) : Method Xml := do
  let function := cstr "m_vx_remove"
  let xid ← vxdbGetxid name
  if xid = 0 then fault .novps
  if (← sys (.vxInfo xid)).rc = 0 then fault .running
  let vdir ← vxdbGetvdir host name
  let outcome ← vxdbExec (sqlVxRemove xid)
  if !outcome.ok then vxdbFault function
  sysOrFault function (cstr "runlink") (.runlink vdir)
  if (← sys (.isdir vdir)).rc ≠ 0 then
    if (← sys (.ismount vdir)).rc = 0 then
      faultf .exist [.chars (cstr "vdir still exists after runlink: "), .str vdir]
  return .nil

def mVxRemove (host : Host) (call : Call) : Method Xml := do
  let params ← methodInit host call capCreate { owner := true, lock := true }
  let name ← ofExcept (params.getStr (cstr "name"))
  inside .remove name (vxRemoveBody host name)

/-! ## vx.rename -/

def sqlVxRename (newname : Str) (xid : Int) : List Piece :=
  [.chars (cstr "UPDATE xid_name_map SET name = '"), .str newname,
    .chars (cstr "' WHERE xid = "), xidPiece xid, .chars (cstr ";")]

def vxRenameBody (host : Host) (name newname : Str) : Method Xml := do
  let function := cstr "m_vx_rename"
  if !validateName newname then
    faultf .inval [.chars (cstr "invalid newname value: "), .str newname]
  if (← vxdbGetxid newname) ≠ 0 then fault .exist
  let xid ← vxdbGetxid name
  if xid = 0 then fault .novps
  let outcome ← vxdbExec (sqlVxRename newname xid)
  if !outcome.ok then vxdbFault function
  let vdir ← vxdbGetvdir host newname
  if (← sys (.vxInfo xid)).rc = 0 then
    sysOrFault function (cstr "vx_uname_set")
      (.vxUnameSet xid (cstr "CONTEXT") ((newname ++ ':' :: vdir).take 64))
  return .nil

def mVxRename (host : Host) (call : Call) : Method Xml := do
  let params ← methodInit host call capCreate { owner := true, lock := true }
  let name ← ofExcept (params.getStr (cstr "name"))
  let newname ← ofExcept (params.getStr (cstr "newname"))
  inside .rename name (vxRenameBody host name newname)

/-! ## Status -/

/-- The limits reported by `vx.limstatus`; those counted in pages are marked. -/
def limitData : List (Str × Bool) :=
  [(cstr "mem_AS", true), (cstr "sys_CORE", false), (cstr "sys_CPU", false),
    (cstr "sys_DATA", false), (cstr "file_FSIZE", false), (cstr "file_LOCKS", false),
    (cstr "mem_MEMLOCK", true), (cstr "ipc_MSGQUEUE", false), (cstr "file_NOFILE", false),
    (cstr "sys_NPROC", false), (cstr "mem_RSS", true), (cstr "ipc_SIGPENDING", false),
    (cstr "mem_STACK", false), (cstr "mem_ANON", true), (cstr "file_DENTRY", false),
    (cstr "sys_MAPPED", true), (cstr "ipc_NSEMS", false), (cstr "file_NSOCK", false),
    (cstr "file_OPENFD", false), (cstr "ipc_SEMARY", false), (cstr "ipc_SHMEM", true)]

def netData : List Str :=
  [cstr "net_UNSPEC", cstr "net_UNIX", cstr "net_INET", cstr "net_INET6",
    cstr "net_PACKET", cstr "net_OTHER"]

/-- Decimal texts of consecutive words of an answer under given keys. -/
def wordMembers (answer : Answer) (convert : Int → Int) (keys : List Str) : List (Str × Xml) :=
  (keys.zip (answer.words ++ List.replicate keys.length 0)).map fun (key, word) =>
    (key, .str (decimal (convert word)))

/-- A status method: the request, and one structure for each of several kernel queries. -/
def statusOf (host : Host) (function : Str) (queries : List (Int → Method Xml))
    (call : Call) : Method Xml := do
  let params ← methodInit host call capInfo { owner := true }
  let name ← ofExcept (params.getStr (cstr "name"))
  let xid ← vxdbGetxid name
  if xid = 0 then fault .novps
  requireRunning function xid
  return .array (← queries.mapM fun query => query xid)

def mVxLimstatus (host : Host) : Call → Method Xml :=
  statusOf host (cstr "m_vx_limstatus") <| limitData.map fun (type, paged) xid => do
    let answer ← sys (.vxLimitStat xid type)
    return .struct ((cstr "type", .str type) ::
      wordMembers answer (if paged then pagestobytes host else id)
        [cstr "min", cstr "cur", cstr "max"])

def mVxNetstatus (host : Host) : Call → Method Xml :=
  statusOf host (cstr "m_vx_netstatus") <| netData.map fun type xid => do
    let answer ← sys (.nxSockStat xid type)
    return .struct ((cstr "type", .str type) ::
      wordMembers answer id [cstr "recvp", cstr "recvb", cstr "sendp", cstr "sendb",
        cstr "failp", cstr "failb"])

/-- A load average with two decimals. -/
def prettyLoad (load : Int) : Str :=
  let percent := load % 2048 * 100 / 2048
  decimal (load / 2048) ++ '.' :: (if percent < 10 then '0' :: decimal percent
    else decimal percent)

/-- The structure `vx.status` returns for the words of a `vx_stat` call. -/
def statusStruct (running : Int) (counts : List Int) (loads : List Str) : Xml :=
  .struct ((cstr "running", .int running) ::
    ([cstr "thr_total", cstr "thr_running", cstr "thr_unintr", cstr "thr_onhold",
      cstr "forks_total", cstr "uptime"].zip (counts.map Xml.int) ++
    [cstr "load1m", cstr "load5m", cstr "load15m"].zip (loads.map Xml.str)))

def mVxStatus (host : Host) (call : Call) : Method Xml := do
  let params ← methodInit host call capInfo { owner := true }
  let name ← ofExcept (params.getStr (cstr "name"))
  let xid ← vxdbGetxid name
  if xid = 0 then fault .novps
  let stopped (load : Str) := statusStruct 0 [0, 0, 0, 0, 0, 0] [load, load, load]
  let info ← sys (.vxInfo xid)
  if info.rc = -1 then
    if info.errno = esrch then return stopped (cstr "0")
    else sysFault (cstr "m_vx_status") (cstr "vx_info")
  else
    let stat ← sys (.vxStat xid)
    if stat.rc = -1 then return stopped []
    else
      let counts := (stat.words.take 5) ++ [stat.words.getD 5 0 / 1000000000]
      return statusStruct 1 counts ((stat.words.drop 6).map prettyLoad)

/-! ## vx.templates -/

/-- The structures for the directories among the entries of the template directory. -/
def templateList (tbasedir name : Str) : List Str → Method (List Xml)
  | [] => pure []
  | entry :: rest => do
      if entry = cstr "." || entry = cstr ".." || (!strIsempty name && name ≠ entry) then
        templateList tbasedir name rest
      else if (← sys (.isdir entry)).rc = 0 then templateList tbasedir name rest
      else
        let tconf := strPathConcat tbasedir entry ++ cstr ".conf"
        let description ←
          if (← sys (.isfile tconf)).rc = 0 then pure (cstr "(none)")
          else do
            let parsed ← sys (.cfgParse tconf)
            pure (if parsed.rc ≠ 0 then cstr "(parse error in configuration)"
              else if strIsempty parsed.text then cstr "(none)" else parsed.text)
        return .struct [(cstr "name", .str entry), (cstr "description", .str description)] ::
          (← templateList tbasedir name rest)

def mVxTemplates (host : Host) (call : Call) : Method Xml := do
  let function := cstr "m_vx_templates"
  let params ← methodInit host call capCreate {}
  let name ← ofExcept (params.getStr (cstr "name"))
  sysOrFault function (cstr "chdir(" ++ host.templatedir ++ cstr ")")
    (.chdir host.templatedir)
  let entries ← sys (.readdir (cstr "."))
  if entries.rc = -1 then
    sysFault function (cstr "opendir(" ++ host.templatedir ++ cstr ")")
  return .array (← templateList host.templatedir name entries.names)

end Vcd
