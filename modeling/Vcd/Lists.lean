import Vcd.Lucid

/-!
# Name lists

The lists of `lists.c` and the capability constants of `auth.h`. Every node of a list has
a non-zero value, so looking a name up for a non-zero value asks whether it is listed;
only the values of the daemon's own capabilities are used otherwise.
-/

namespace Vcd

open Sql

/-- A list of names with bit values. -/
abbrev Flist := List (Str × UInt64)

/-- The value of a name, or zero. -/
def flist64Getval (list : Flist) (key : Str) : UInt64 :=
  (list.lookup key).getD 0

/-- The first name with a value. -/
def flist64Getkey (list : Flist) (value : UInt64) : Option Str :=
  (list.find? (·.2 = value)).map (·.1)

def capAuth : UInt64 := (1 : UInt64) <<< 0
def capDlim : UInt64 := (1 : UInt64) <<< 1
def capInit : UInt64 := (1 : UInt64) <<< 2
def capMount : UInt64 := (1 : UInt64) <<< 3
def capNet : UInt64 := (1 : UInt64) <<< 4
def capBcap : UInt64 := (1 : UInt64) <<< 5
def capCcap : UInt64 := (1 : UInt64) <<< 6
def capCflag : UInt64 := (1 : UInt64) <<< 7
def capRlim : UInt64 := (1 : UInt64) <<< 8
def capSched : UInt64 := (1 : UInt64) <<< 9
def capUname : UInt64 := (1 : UInt64) <<< 10
def capCreate : UInt64 := (1 : UInt64) <<< 11
def capExec : UInt64 := (1 : UInt64) <<< 12
def capInfo : UInt64 := (1 : UInt64) <<< 13
def capHelper : UInt64 := (1 : UInt64) <<< 63

/-- The entry of `HELPER` is commented out in the source. -/
def vcdCapsList : Flist :=
  [(cstr "AUTH", capAuth), (cstr "DLIM", capDlim), (cstr "INIT", capInit),
    (cstr "MOUNT", capMount), (cstr "NET", capNet), (cstr "BCAP", capBcap),
    (cstr "CCAP", capCcap), (cstr "CFLAG", capCflag), (cstr "RLIM", capRlim),
    (cstr "SCHED", capSched), (cstr "UNAME", capUname), (cstr "CREATE", capCreate),
    (cstr "EXEC", capExec), (cstr "INFO", capInfo)]

/-- All capabilities of `auth.h`. -/
def capConstants : Flist :=
  vcdCapsList ++ [(cstr "HELPER", capHelper)]

def bcapsList : List Str :=
  [cstr "CHOWN", cstr "DAC_OVERRIDE", cstr "DAC_READ_SEARCH", cstr "FOWNER", cstr "FSETID",
    cstr "KILL", cstr "SETGID", cstr "SETUID", cstr "SETPCAP", cstr "LINUX_IMMUTABLE",
    cstr "NET_BIND_SERVICE", cstr "NET_BROADCAST", cstr "NET_ADMIN", cstr "NET_RAW",
    cstr "IPC_LOCK", cstr "IPC_OWNER", cstr "SYS_MODULE", cstr "SYS_RAWIO",
    cstr "SYS_CHROOT", cstr "SYS_PTRACE", cstr "SYS_PACCT", cstr "SYS_ADMIN",
    cstr "SYS_BOOT", cstr "SYS_NICE", cstr "SYS_RESOURCE", cstr "SYS_TIME",
    cstr "SYS_TTY_CONFIG", cstr "MKNOD", cstr "LEASE", cstr "AUDIT_WRITE",
    cstr "AUDIT_CONTROL"]

def ccapsList : List Str :=
  [cstr "SET_UTSNAME", cstr "SET_RLIMIT", cstr "RAW_ICMP", cstr "SYSLOG",
    cstr "SECURE_MOUNT", cstr "SECURE_REMOUNT", cstr "BINARY_MOUNT", cstr "QUOTA_CTL",
    cstr "ADMIN_MAPPER", cstr "ADMIN_CLOOP"]

def cflagsList : List Str :=
  [cstr "INFO_PRIVATE", cstr "INFO_INIT", cstr "INFO_HIDE", cstr "SCHED_HARD",
    cstr "SCHED_PRIO", cstr "SCHED_PAUSE", cstr "VIRT_MEM", cstr "VIRT_UPTIME",
    cstr "VIRT_CPU", cstr "VIRT_LOAD", cstr "VIRT_TIME", cstr "HIDE_MOUNT",
    cstr "HIDE_NETIF", cstr "HIDE_VINFO", cstr "FORK_RSS"]

def unameList : List Str :=
  [cstr "SYSNAME", cstr "NODENAME", cstr "RELEASE", cstr "VERSION", cstr "MACHINE",
    cstr "DOMAINNAME"]

def rlimitList : List Str :=
  [cstr "CPU", cstr "FSIZE", cstr "DATA", cstr "STACK", cstr "CORE", cstr "RSS",
    cstr "NPROC", cstr "NOFILE", cstr "MEMLOCK", cstr "AS", cstr "LOCKS",
    cstr "SIGPENDING", cstr "MSGQUEUE", cstr "NSOCK", cstr "OPENFD", cstr "ANON",
    cstr "SHMEM", cstr "SEMARY", cstr "NSEMS", cstr "DENTRY", cstr "MAPPED"]

/-- Names of the lists consist of capital letters and underscores. -/
theorem quoteFree_of_mem_list {name : Str}
    (mem : name ∈ bcapsList ++ ccapsList ++ cflagsList ++ unameList ++ rlimitList) :
    QuoteFree name := by
  have all : (bcapsList ++ ccapsList ++ cflagsList ++ unameList ++ rlimitList).all
      fun name => decide (QuoteFree name) := by decide
  exact of_decide_eq_true (List.all_eq_true.mp all name mem)

theorem quoteFree_of_mem_caps {name : Str} {value : UInt64}
    (mem : (name, value) ∈ vcdCapsList) : QuoteFree name := by
  have all : vcdCapsList.all fun cap => decide (QuoteFree cap.1) := by decide
  exact of_decide_eq_true (List.all_eq_true.mp all _ mem)

end Vcd
