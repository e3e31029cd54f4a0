import Vcd.Sql.Engine

/-!
# The tables of vxdb

The table definitions of `vxdb-tables.h`: names, columns and unique indices.
-/

namespace Vcd

open Sql

/-- The tables `_vxdb_tables` lists. -/
inductive Table where
  | dxLimit | groups | init | mount | nxAddr | nxBroadcast | restart | user | userCaps | vcd
  | vdir | vxBcaps | vxCcaps | vxCpuset | vxFlags | vxLimit | vxSched | vxUname
  | xidGidMap | xidNameMap | xidUidMap
  deriving DecidableEq, Repr

namespace Table

def name : Table → Str
  | .dxLimit => cstr "dx_limit"
  | .groups => cstr "groups"
  | .init => cstr "init"
  | .mount => cstr "mount"
  | .nxAddr => cstr "nx_addr"
  | .nxBroadcast => cstr "nx_broadcast"
  | .restart => cstr "restart"
  | .user => cstr "user"
  | .userCaps => cstr "user_caps"
  | .vcd => cstr "vcd"
  | .vdir => cstr "vdir"
  | .vxBcaps => cstr "vx_bcaps"
  | .vxCcaps => cstr "vx_ccaps"
  | .vxCpuset => cstr "vx_cpuset"
  | .vxFlags => cstr "vx_flags"
  | .vxLimit => cstr "vx_limit"
  | .vxSched => cstr "vx_sched"
  | .vxUname => cstr "vx_uname"
  | .xidGidMap => cstr "xid_gid_map"
  | .xidNameMap => cstr "xid_name_map"
  | .xidUidMap => cstr "xid_uid_map"

def all : List Table :=
  [.dxLimit, .groups, .init, .mount, .nxAddr, .nxBroadcast, .restart, .user, .userCaps,
    .vcd, .vdir, .vxBcaps, .vxCcaps, .vxCpuset, .vxFlags, .vxLimit, .vxSched, .vxUname,
    .xidGidMap, .xidNameMap, .xidUidMap]

def columns : Table → List Str
  | .dxLimit => [cstr "xid", cstr "space", cstr "inodes", cstr "reserved"]
  | .groups => [cstr "gid", cstr "name"]
  | .init => [cstr "xid", cstr "init", cstr "halt", cstr "reboot", cstr "timeout"]
  | .mount => [cstr "xid", cstr "src", cstr "dst", cstr "type", cstr "opts"]
  | .nxAddr => [cstr "xid", cstr "addr", cstr "netmask"]
  | .nxBroadcast => [cstr "xid", cstr "broadcast"]
  | .restart => [cstr "xid"]
  | .user => [cstr "uid", cstr "name", cstr "password", cstr "admin"]
  | .userCaps => [cstr "uid", cstr "cap"]
  | .vcd => [cstr "uptime", cstr "requests", cstr "flogins", cstr "nomethod",
      cstr "vxdbqueries"]
  | .vdir => [cstr "xid", cstr "vdir"]
  | .vxBcaps => [cstr "xid", cstr "bcap"]
  | .vxCcaps => [cstr "xid", cstr "ccap"]
  | .vxCpuset => [cstr "xid", cstr "cpus", cstr "mems", cstr "virtualize"]
  | .vxFlags => [cstr "xid", cstr "flag"]
  | .vxLimit => [cstr "xid", cstr "type", cstr "soft", cstr "max"]
  | .vxSched => [cstr "xid", cstr "cpuid", cstr "fillrate", cstr "fillrate2",
      cstr "interval", cstr "interval2", cstr "tokensmin", cstr "tokensmax"]
  | .vxUname => [cstr "xid", cstr "type", cstr "value"]
  | .xidGidMap => [cstr "xid", cstr "gid"]
  | .xidNameMap => [cstr "xid", cstr "name"]
  | .xidUidMap => [cstr "xid", cstr "uid"]

def unique : Table → List (List Str)
  | .dxLimit | .init | .nxBroadcast | .restart | .vxCpuset => [[cstr "xid"]]
  | .groups => [[cstr "gid"], [cstr "name"]]
  | .mount => [[cstr "xid", cstr "dst"]]
  | .nxAddr => [[cstr "xid", cstr "addr"]]
  | .user => [[cstr "uid"], [cstr "name"]]
  | .userCaps => [[cstr "uid", cstr "cap"]]
  | .vcd => [[cstr "uptime"]]
  | .vdir => [[cstr "xid"], [cstr "vdir"]]
  | .vxBcaps => [[cstr "xid", cstr "bcap"]]
  | .vxCcaps => [[cstr "xid", cstr "ccap"]]
  | .vxFlags => [[cstr "xid", cstr "flag"]]
  | .vxLimit => [[cstr "xid", cstr "type"]]
  | .vxSched => [[cstr "xid", cstr "cpuid"]]
  | .vxUname => [[cstr "xid", cstr "type"]]
  | .xidGidMap => [[cstr "xid", cstr "gid"]]
  | .xidNameMap => [[cstr "xid"], [cstr "name"]]
  | .xidUidMap => [[cstr "xid", cstr "uid"]]

def named (text : Str) : Option Table :=
  all.find? (·.name == text)

end Table

/-- The schema of vxdb. -/
@[reducible] def vxdbSchema : Schema where
  Table := Table
  name := Table.name
  named := Table.named
  columns := Table.columns
  unique := Table.unique

abbrev Vxdb := Database vxdbSchema

instance (table : Table) (rows : List Row) : Decidable (vxdbSchema.Distinct table rows) :=
  inferInstanceAs (Decidable (rows.Pairwise _))

/-- What `vxdb_sanity_check` and the start of the daemon put into an empty database: the
group `onboot`, the users `admin` and `vshelper` with their capabilities, and the row of
counters. -/
def freshVxdb (uptime : Int) : Vxdb where
  rows
    | .groups => [[.int 1, .str (cstr "onboot")]]
    | .user => [[.int 1, .str (cstr "admin"), .str (cstr "*"), .int 1],
        [.int 2, .str (cstr "vshelper"), .str (cstr "*"), .int 0]]
    | .userCaps => [[.int 1, .str (cstr "AUTH")], [.int 1, .str (cstr "DLIM")],
        [.int 1, .str (cstr "INIT")], [.int 1, .str (cstr "MOUNT")],
        [.int 1, .str (cstr "NET")], [.int 1, .str (cstr "BCAP")],
        [.int 1, .str (cstr "CCAP")], [.int 1, .str (cstr "CFLAG")],
        [.int 1, .str (cstr "RLIM")], [.int 1, .str (cstr "SCHED")],
        [.int 1, .str (cstr "UNAME")], [.int 1, .str (cstr "CREATE")],
        [.int 1, .str (cstr "EXEC")], [.int 1, .str (cstr "INFO")],
        [.int 2, .str (cstr "HELPER")]]
    | .vcd => [[.int uptime, .int 0, .int 0, .int 0, .int 0]]
    | _ => []
  distinct := fun table => by
    cases table with
    | groups | user | userCaps => dsimp only; decide
    | vcd => exact List.pairwise_singleton _ _
    | _ => exact List.Pairwise.nil

end Vcd
