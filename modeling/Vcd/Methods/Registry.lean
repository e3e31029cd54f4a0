import Vcd.Methods.Create
import Vcd.Methods.Groups
import Vcd.Methods.Helpers
import Vcd.Methods.Rights

/-!
# The method registry

The methods a client can call, by name.
-/

namespace Vcd

open Sql Process

/-- What the daemon runs with. -/
structure Setup where
  host : Host
  templates : Templates

section

variable (setup : Setup)

def helperMethods : List (Str × (Call → Method Xml)) :=
  [(cstr "helper.netup", mHelperNetup setup.host),
    (cstr "helper.restart", mHelperRestart setup.host),
    (cstr "helper.shutdown", mHelperShutdown setup.host),
    (cstr "helper.startup", mHelperStartup setup.host)]

def vcdMethods : List (Str × (Call → Method Xml)) :=
  [(cstr "vcd.hostinfo", mVcdHostinfo setup.host),
    (cstr "vcd.login", mVcdLogin setup.host),
    (cstr "vcd.status", mVcdStatus setup.host),
    (cstr "vcd.user.caps.add", mVcdUserCapsAdd setup.host),
    (cstr "vcd.user.caps.get", mVcdUserCapsGet setup.host),
    (cstr "vcd.user.caps.remove", mVcdUserCapsRemove setup.host),
    (cstr "vcd.user.get", mVcdUserGet setup.host),
    (cstr "vcd.user.remove", mVcdUserRemove setup.host),
    (cstr "vcd.user.set", mVcdUserSet setup.host)]

def vgMethods : List (Str × (Call → Method Xml)) :=
  [(cstr "vg.add", mVgAdd setup.host),
    (cstr "vg.list", mVgList setup.host),
    (cstr "vg.remove", mVgRemove setup.host),
    (cstr "vg.vx.reboot", mVgVxReboot setup.host),
    (cstr "vg.vx.restart", mVgVxRestart setup.host),
    (cstr "vg.vx.start", mVgVxStart setup.host),
    (cstr "vg.vx.stop", mVgVxStop setup.host)]

def vxMethods : List (Str × (Call → Method Xml)) :=
  [(cstr "vx.create", mVxCreate setup.host setup.templates),
    (cstr "vx.exec", mVxExec setup.host),
    (cstr "vx.kill", mVxKill setup.host),
    (cstr "vx.limstatus", mVxLimstatus setup.host),
    (cstr "vx.netstatus", mVxNetstatus setup.host),
    (cstr "vx.reboot", mVxReboot setup.host),
    (cstr "vx.remove", mVxRemove setup.host),
    (cstr "vx.rename", mVxRename setup.host),
    (cstr "vx.restart", mVxRestart setup.host),
    (cstr "vx.start", mVxStart setup.host),
    (cstr "vx.status", mVxStatus setup.host),
    (cstr "vx.stop", mVxStop setup.host),
    (cstr "vx.templates", mVxTemplates setup.host)]

/-- The configuration methods that write. -/
def vxdbWriters : List (Str × (Call → Method Xml)) :=
  [(cstr "vxdb.dx.limit.remove", mVxdbDxLimitRemove setup.host),
    (cstr "vxdb.dx.limit.set", mVxdbDxLimitSet setup.host),
    (cstr "vxdb.init.set", mVxdbInitSet setup.host),
    (cstr "vxdb.mount.remove", mVxdbMountRemove setup.host),
    (cstr "vxdb.mount.set", mVxdbMountSet setup.host),
    (cstr "vxdb.nx.addr.remove", mVxdbNxAddrRemove setup.host),
    (cstr "vxdb.nx.addr.set", mVxdbNxAddrSet setup.host),
    (cstr "vxdb.nx.broadcast.remove", mVxdbNxBroadcastRemove setup.host),
    (cstr "vxdb.nx.broadcast.set", mVxdbNxBroadcastSet setup.host),
    (cstr "vxdb.vx.bcaps.add", mVxdbVxBcapsAdd setup.host),
    (cstr "vxdb.vx.bcaps.remove", mVxdbVxBcapsRemove setup.host),
    (cstr "vxdb.vx.ccaps.add", mVxdbVxCcapsAdd setup.host),
    (cstr "vxdb.vx.ccaps.remove", mVxdbVxCcapsRemove setup.host),
    (cstr "vxdb.vx.cpuset.remove", mVxdbVxCpusetRemove setup.host),
    (cstr "vxdb.vx.cpuset.set", mVxdbVxCpusetSet setup.host),
    (cstr "vxdb.vx.flags.add", mVxdbVxFlagsAdd setup.host),
    (cstr "vxdb.vx.flags.remove", mVxdbVxFlagsRemove setup.host),
    (cstr "vxdb.vx.limit.remove", mVxdbVxLimitRemove setup.host),
    (cstr "vxdb.vx.limit.set", mVxdbVxLimitSet setup.host),
    (cstr "vxdb.vx.sched.remove", mVxdbVxSchedRemove setup.host),
    (cstr "vxdb.vx.sched.set", mVxdbVxSchedSet setup.host),
    (cstr "vxdb.vx.uname.remove", mVxdbVxUnameRemove setup.host),
    (cstr "vxdb.vx.uname.set", mVxdbVxUnameSet setup.host)]

def vxdbReaders : List (Str × (Call → Method Xml)) :=
  [(cstr "vxdb.dx.limit.get", mVxdbDxLimitGet setup.host),
    (cstr "vxdb.init.get", mVxdbInitGet setup.host),
    (cstr "vxdb.list", mVxdbList setup.host),
    (cstr "vxdb.mount.get", mVxdbMountGet setup.host),
    (cstr "vxdb.name.get", mVxdbNameGet setup.host),
    (cstr "vxdb.nx.addr.get", mVxdbNxAddrGet setup.host),
    (cstr "vxdb.nx.broadcast.get", mVxdbNxBroadcastGet setup.host),
    (cstr "vxdb.owner.get", mVxdbOwnerGet setup.host),
    (cstr "vxdb.vdir.get", mVxdbVdirGet setup.host),
    (cstr "vxdb.vx.bcaps.get", mVxdbVxBcapsGet setup.host),
    (cstr "vxdb.vx.ccaps.get", mVxdbVxCcapsGet setup.host),
    (cstr "vxdb.vx.cpuset.get", mVxdbVxCpusetGet setup.host),
    (cstr "vxdb.vx.flags.get", mVxdbVxFlagsGet setup.host),
    (cstr "vxdb.vx.limit.get", mVxdbVxLimitGet setup.host),
    (cstr "vxdb.vx.sched.get", mVxdbVxSchedGet setup.host),
    (cstr "vxdb.vx.uname.get", mVxdbVxUnameGet setup.host),
    (cstr "vxdb.xid.get", mVxdbXidGet setup.host)]

def vxdbOwnerMethods : List (Str × (Call → Method Xml)) :=
  [(cstr "vxdb.owner.add", mVxdbOwnerAdd setup.host),
    (cstr "vxdb.owner.remove", mVxdbOwnerRemove setup.host)]

/-- All registered methods. -/
def registry : List (Str × (Call → Method Xml)) :=
  helperMethods setup ++ vcdMethods setup ++ vgMethods setup ++ vxMethods setup ++
    vxdbWriters setup ++ vxdbReaders setup ++ vxdbOwnerMethods setup

/-- A request of a client: the method's name, the credentials and the parameters. -/
structure Request where
  method : Str
  credentials : Xml
  params : Xml

/-- The program that handles a request. -/
def handle (request : Request) : Method Xml :=
  match (registry setup).lookup request.method with
  | some method => method (.client request.credentials request.params)
  | none => methodDefault request.method

end

end Vcd
