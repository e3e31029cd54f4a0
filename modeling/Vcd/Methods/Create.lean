import Vcd.Methods.Servers

/-!
# vx.create

The method that builds the file system of a virtual server from a template and records
its configuration. Recording assembles one SQL script, piece by piece.
-/

namespace Vcd

open Sql Process

/-! ## Template configuration -/

/-- A mount section: its title and options. -/
structure MountConf where
  dst : Str
  src : Option Str
  type : Option Str
  opts : Option Str

/-- A parsed template configuration; options that are not set have their defaults. -/
structure TemplateConf where
  init : Str := cstr "/sbin/init"
  halt : Str := cstr "/sbin/halt"
  reboot : Str := cstr "/sbin/reboot"
  timeout : Int := 15
  mounts : List MountConf := []
  vxBcaps : List Str := [cstr "CHOWN", cstr "DAC_OVERRIDE", cstr "DAC_READ_SEARCH",
    cstr "FOWNER", cstr "FSETID", cstr "KILL", cstr "SETGID", cstr "SETUID",
    cstr "NET_BIND_SERVICE", cstr "SYS_CHROOT", cstr "SYS_PTRACE", cstr "SYS_BOOT",
    cstr "SYS_TTY_CONFIG", cstr "LEASE"]
  vxCcaps : List Str := [cstr "SET_UTSNAME", cstr "RAW_ICMP"]
  vxFlags : List Str := [cstr "VIRT_MEM", cstr "VIRT_UPTIME", cstr "VIRT_CPU",
    cstr "VIRT_LOAD", cstr "HIDE_NETIF"]

/-- What the parser makes of a configuration file. -/
inductive ConfResult where
  | fileError
  | parseError
  | parsed (conf : TemplateConf)

/-- The configuration files of the templates, by path. -/
abbrev Templates := Str → ConfResult

/-! ## The script -/

/-- The tables `vx.create` deletes from before it inserts, in order. -/
def clearedTables : List Table :=
  [.dxLimit, .init, .mount, .nxAddr, .nxBroadcast, .restart, .vdir, .vxBcaps, .vxCcaps,
    .vxFlags, .vxLimit, .vxSched, .vxUname, .xidNameMap]

def sqlClear (xid : Int) : List Piece :=
  sqlDeleteXid (cstr "dx_limit    ") xid ++ sqlDeleteXid (cstr "init        ") xid ++
    sqlDeleteXid (cstr "mount       ") xid ++ sqlDeleteXid (cstr "nx_addr     ") xid ++
    sqlDeleteXid (cstr "nx_broadcast") xid ++ sqlDeleteXid (cstr "restart     ") xid ++
    sqlDeleteXid (cstr "vdir        ") xid ++ sqlDeleteXid (cstr "vx_bcaps    ") xid ++
    sqlDeleteXid (cstr "vx_ccaps    ") xid ++ sqlDeleteXid (cstr "vx_flags    ") xid ++
    sqlDeleteXid (cstr "vx_limit    ") xid ++ sqlDeleteXid (cstr "vx_sched    ") xid ++
    sqlDeleteXid (cstr "vx_uname    ") xid ++ sqlDeleteXid (cstr "xid_name_map") xid

def sqlInsertInit (xid : Int) (init halt reboot : Str) (timeout : Int) : List Piece :=
  [.chars (cstr "INSERT INTO init (xid, init, halt, reboot, timeout) VALUES ("),
    xidPiece xid, .chars (cstr ", '"), .str init, .chars (cstr "', '"), .str halt,
    .chars (cstr "', '"), .str reboot, .chars (cstr "', "), .int timeout,
    .chars (cstr ");")]

def sqlInsertMount (xid : Int) (src dst type opts : Str) : List Piece :=
  [.chars (cstr "INSERT INTO mount (xid, src, dst, type, opts) VALUES ("),
    xidPiece xid, .chars (cstr ", '"), .str src, .chars (cstr "', '"), .str dst,
    .chars (cstr "', '"), .str type, .chars (cstr "', '"), .str opts, .chars (cstr "');")]

/-- Insert a row with a context id and a text. -/
def sqlInsertText (table : Table) (key : Str) (xid : Int) (value : Str) : List Piece :=
  [.chars (cstr "INSERT INTO "), .chars table.name, .chars (cstr " (xid, "), .chars key,
    .chars (cstr ") VALUES ("), xidPiece xid, .chars (cstr ", '"), .str value,
    .chars (cstr "');")]

/-- The mounts of a template without mount sections. -/
def defaultMounts : List (Str × Str × Str × Str) :=
  [(cstr "none", cstr "/proc", cstr "proc", cstr "defaults"),
    (cstr "none", cstr "/dev/pts", cstr "devpts", cstr "defaults")]

/-- What the script records about a virtual server. -/
structure Entries where
  init : Str
  halt : Str
  reboot : Str
  timeout : Int
  mounts : List (Str × Str × Str × Str)
  bcaps : List Str
  ccaps : List Str
  flags : List Str
  vdir : Str
  name : Str

def sqlCreate (xid : Int) (entries : Entries) : List Piece :=
  .chars (cstr "BEGIN EXCLUSIVE TRANSACTION;") :: sqlClear xid ++
    sqlInsertInit xid entries.init entries.halt entries.reboot entries.timeout ++
    entries.mounts.flatMap (fun (src, dst, type, opts) =>
      sqlInsertMount xid src dst type opts) ++
    entries.bcaps.flatMap (sqlInsertText .vxBcaps (cstr "bcap") xid) ++
    entries.ccaps.flatMap (sqlInsertText .vxCcaps (cstr "ccap") xid) ++
    entries.flags.flatMap (sqlInsertText .vxFlags (cstr "flag") xid) ++
    sqlInsertText .vdir (cstr "vdir") xid entries.vdir ++
    sqlInsertText .xidNameMap (cstr "name") xid entries.name ++
    [.chars (cstr "COMMIT TRANSACTION;")]

/-- A null string is printed like this in messages. -/
def orNull (text : Option Str) : Str :=
  text.getD (cstr "(null)")

def confFault (message text : Str) : Except Fault Unit :=
  refuse .conf [.chars (cstr "invalid template configuration for "), .chars message,
    .chars (cstr ": "), .str text]

/-- Check a mount section. -/
def mountEntry (mount : MountConf) : Except Fault (Str × Str × Str × Str) := do
  if !validatePath mount.dst then confFault (cstr "mount destination") mount.dst
  if !mount.src.any validatePath && mount.src ≠ some (cstr "none") then
    confFault (cstr "mount source") (orNull mount.src)
  if mount.type.all strIsempty || !mount.type.all strIsalnum then
    confFault (cstr "mount type") (orNull mount.type)
  if mount.opts.all strIsempty || !mount.opts.all strIsascii then
    confFault (cstr "mount options") (orNull mount.opts)
  return (mount.src.getD [], mount.dst, mount.type.getD [], mount.opts.getD [])

/-- Check a list of names. -/
def listedNames (list : List Str) (message : Str) : List Str → Except Fault (List Str)
  | [] => .ok []
  | name :: rest => do
      if !list.contains name then confFault message name
      return name :: (← listedNames list message rest)

/-- The timeout of a template, cut to the `int` it is assigned to, and at least zero. -/
def templateTimeout (timeout : Int) : Int :=
  if int32 timeout < 0 then 0 else int32 timeout

/-- The checks `create_vxdb_entries` makes while it assembles the script. -/
def templateEntries (conf : TemplateConf) (vdir name : Str) : Except Fault Entries := do
  if !validatePath conf.init then confFault (cstr "init") conf.init
  if !validatePath conf.halt then confFault (cstr "halt") conf.halt
  if !validatePath conf.reboot then confFault (cstr "reboot") conf.reboot
  let mounts ← if conf.mounts = [] then pure defaultMounts else conf.mounts.mapM mountEntry
  let bcaps ← listedNames bcapsList (cstr "bcap") conf.vxBcaps
  let ccaps ← listedNames ccapsList (cstr "ccap") conf.vxCcaps
  let flags ← listedNames cflagsList (cstr "cflag") conf.vxFlags
  return { init := conf.init, halt := conf.halt, reboot := conf.reboot,
           timeout := templateTimeout conf.timeout,
           mounts, bcaps, ccaps, flags, vdir, name }

def createVxdbEntries (host : Host) (templates : Templates) (tdir template vdir name : Str)
    (xid : Int) : Method Unit := do
  let tconf := tdir ++ cstr ".conf"
  let exists? ← sys (.isfile tconf)
  let result := if exists?.rc = 0 then ConfResult.parsed {} else templates tconf
  match result with
  | .fileError =>
      faultf .conf [.chars (cstr "could not read template configuration: "), .str template]
  | .parseError =>
      faultf .conf [.chars (cstr "syntax error in template configuration: "), .str template]
  | .parsed conf =>
      let entries ← ofExcept (templateEntries conf vdir name)
      let outcome ← vxdbExecFormat host (render (sqlCreate xid entries))
      if !outcome.ok then
        let _ ← sys (.runlink vdir)
        vxdbFault (cstr "create_vxdb_entries")

/-! ## Context ids -/

def sqlCountMax : List Piece :=
  [.chars (cstr "SELECT COUNT(xid),MAX(xid) FROM xid_name_map")]

/-- Look for the first id without a name, upwards from `from`. -/
def scanFreeXid (xid : Int) : Nat → Method Int
  | 0 => pure 0
  | remaining + 1 => do
      match ← vxdbGetname xid with
      | none => return xid
      | some _ => scanFreeXid (xid + 1) remaining

/-- The loop over the result row. Looking for names ends the outer query too, since both
use one statement handle; stepping it again is then an error. -/
def chooseXid (row : Row) : Method (Int × Bool) := do
  let cnt := vxdbColumnInt row 0
  if cnt < 1 then return (2, false)
  let max := vxdbColumnInt row 1
  if max < 65535 then return (uint32 (max + 1), false)
  if cnt < 65535 then return (← scanFreeXid 2 65533, true)
  return (0, false)

def noFreeXid {α : Type} (name : Str) : Method α :=
  faultf .vxdb [.chars (cstr "no free context id available: "), .str name]

def findFreeXid (name : Str) (xid : Int) : Method Int := do
  if xid ≠ 0 then return xid
  match ← vxdbPrepare sqlCountMax with
  | none | some [] => noFreeXid name
  | some (row :: _) =>
      let (xid, finalized) ← chooseXid row
      if xid = 0 then noFreeXid name
      if finalized then vxdbFault (cstr "find_free_xid")
      return xid

/-! ## The file system -/

/-- The device nodes of `/dev`. -/
def devNodes : List Str :=
  [cstr "dev/null", cstr "dev/zero", cstr "dev/full", cstr "dev/random", cstr "dev/urandom",
    cstr "dev/tty", cstr "dev/ptmx"]

/-- Calls made one after the other until one returns -1. -/
def sysAll (error : Method Unit) : List Sys → Method Unit
  | [] => pure ()
  | call :: rest => do
      if (← sys call).rc = -1 then error else sysAll error rest

/-- Create the directory and fill it from the template. The copy of the template tree is
one operation. -/
def makeVserverFilesystem (vdir tdir : Str) (copy : Bool) : Method Unit := do
  let function := cstr "make_vserver_filesystem"
  sysOrFault function (cstr "chroot_secure_chdir") (.chrootSecureChdir vdir (cstr "/"))
  sysOrFault function (cstr "nftw") (.fillVdir tdir vdir copy)

/-- `dev` in the new directory. -/
def devPath (vdir path : Str) : Str :=
  strPathConcat vdir path

def sanitizeDev (vdir : Str) : Method Unit := do
  let error := faultf .sys [.chars (cstr "could not properly sanitize /dev")]
  sysOrFault (cstr "build_root_filesystem") (cstr "chroot_secure_chdir")
    (.chrootSecureChdir vdir (cstr "/"))
  sysAll error (.runlink (devPath vdir (cstr "dev")) :: .mkdir (devPath vdir (cstr "dev")) ::
    .mkdir (devPath vdir (cstr "dev/pts")) ::
    devNodes.map fun node => .mknod (devPath vdir node))

def buildRootFilesystem (host : Host) (name vdir tdir : Str) (xid : Int) (copy : Bool) :
    Method Int := do
  if xid > 0 then
    let oldvdir ← vxdbGetvdir host name
    if !validatePath oldvdir then
      faultf .conf [.chars (cstr "invalid old vdir path: "), .str oldvdir]
    let _ ← sys (.runlink oldvdir)
  let _ ← sys (.runlink vdir)
  let xid ← findFreeXid name xid
  sysOrFault (cstr "build_root_filesystem") (cstr "mkdirp") (.mkdirp vdir)
  match ← (makeVserverFilesystem vdir tdir copy).attempt with
  | .error fault =>
      let _ ← sys (.runlink vdir)
      .fail fault
  | .ok () =>
      sanitizeDev vdir
      return xid

/-! ## The request -/

/-- The context id of a server to be rebuilt, or zero for a new one; the checks that the
user may do so. -/
def createTarget (user name : Str) (force : Bool) : Method Int := do
  let xid ← vxdbGetxid name
  if xid ≠ 0 then
    if ← authIsowner user name then
      if !force then fault .exist
      else if (← sys (.vxInfo xid)).rc = 0 then fault .running
    else fault .novps
  else if !(← authIsadmin user) then fault .perm
  return xid

/-- The directory: the parameter if an administrator gives one, else the recorded or
default one. -/
def createVdir (host : Host) (user name vdir : Str) : Method Str := do
  if strIsempty vdir then vxdbGetvdir host name
  else if ← authIsadmin user then return vdir
  else vxdbGetvdir host name

def mVxCreate (host : Host) (templates : Templates) (call : Call) : Method Xml := do
  let _ ← methodInit host call capCreate { lock := true }
  let (credentials, params) ← match call with
    | .client credentials params => pure (credentials, params)
    | .internal _ => .fail .request
  let user ← ofExcept (credentials.getStr (cstr "username"))
  let name ← ofExcept (params.getStr (cstr "name"))
  let template ← ofExcept (params.getStr (cstr "template"))
  let force ← ofExcept (params.getBool (cstr "force"))
  let copy ← ofExcept (params.getBool (cstr "copy"))
  let vdir ← ofExcept (params.getStr (cstr "vdir"))
  if strIsempty template || !strIsgraph template then
    faultf .inval [.chars (cstr "invalid template name: "), .str template]
  let badBase := faultf .conf [.chars (cstr "tbasedir invalid path or does not exist: "),
    .str host.templatedir]
  if !validatePath host.templatedir then badBase
  if (← sys (.isdir host.templatedir)).rc = 0 then badBase
  let tdir := strPathConcat host.templatedir template
  if (← sys (.isdir tdir)).rc = 0 then
    faultf .inval [.chars (cstr "template does not exist: "), .str template]
  let xid ← createTarget user name force
  let vdir ← createVdir host user name vdir
  if !validatePath vdir then
    faultf .inval [.chars (cstr "invalid vdir path: "), .str vdir]
  if vdir.length > 31 then
    faultf .inval [.chars (cstr "vdir path too long: "), .str vdir]
  if !force then
    if (← sys (.ispath vdir)).rc ≠ 0 then
      faultf .exist [.chars (cstr "vdir path already exists: "), .str vdir]
  let xid ← buildRootFilesystem host name vdir tdir xid copy
  createVxdbEntries host templates tdir template vdir name xid
  return .nil

end Vcd
