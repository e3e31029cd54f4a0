import Vcd.Methods.Queries
import Vcd.Methods.Servers

/-!
# Groups of virtual servers

The `vg.*` methods.
-/

namespace Vcd

open Sql Process

/-! ## Members -/

def sqlGroupInsert (gid : Int) (group : Str) : List Piece :=
  [.chars (cstr "INSERT INTO groups (gid, name) VALUES ("), .int gid, .chars (cstr ", '"),
    .str group, .chars (cstr "')")]

def sqlMemberInsert (xid gid : Int) : List Piece :=
  [.chars (cstr "INSERT INTO xid_gid_map (xid, gid) VALUES ("), xidPiece xid,
    .chars (cstr ", "), .int gid, .chars (cstr ")")]

def sqlMemberRemove (xid gid : Int) : List Piece :=
  [.chars (cstr "DELETE FROM xid_gid_map WHERE xid = "), xidPiece xid,
    .chars (cstr " AND gid = "), .int gid]

def sqlGroupRemove (gid : Int) : List Piece :=
  [.chars (cstr "BEGIN EXCLUSIVE TRANSACTION;DELETE FROM xid_gid_map WHERE gid = "),
    .int gid, .chars (cstr ";DELETE FROM groups WHERE gid = "), .int gid,
    .chars (cstr ";COMMIT TRANSACTION;")]

def sqlLastGid : List Piece :=
  [.chars (cstr "SELECT gid FROM groups ORDER BY gid DESC LIMIT 1")]

/-- The id of a group, which is created if there is none. -/
def vgAddGroup (group : Str) : Method Int := do
  let gid ← vxdbGetgid group
  if gid ≠ 0 then return gid
  let gid ← match ← vxdbPrepare sqlLastGid with
    | some (row :: _) => pure (int32 (vxdbColumnInt row 0 + 1))
    | _ => pure 1
  let outcome ← vxdbExec (sqlGroupInsert gid group)
  if !outcome.ok then vxdbFault (cstr "m_vg_add")
  return gid

def validateMember (name : Str) : Method Int := do
  if !validateName name then
    faultf .inval [.chars (cstr "invalid name value: "), .str name]
  let xid ← vxdbGetxid name
  if xid = 0 then fault .novps
  return xid

def mVgAdd (host : Host) (call : Call) : Method Xml := do
  let params ← methodInit host call capAuth {}
  let group ← ofExcept (params.getStr (cstr "group"))
  let name ← ofExcept (params.getStr (cstr "name"))
  if !validateGroup group then
    faultf .inval [.chars (cstr "invalid group value: "), .str group]
  if group = cstr "all" then return .nil
  let gid ← vgAddGroup group
  if !strIsempty name then
    let xid ← validateMember name
    let outcome ← vxdbExec (sqlMemberInsert xid gid)
    if !outcome.ok then vxdbFault (cstr "m_vg_add")
  return .nil

def mVgRemove (host : Host) (call : Call) : Method Xml := do
  let params ← methodInit host call capAuth {}
  let group ← ofExcept (params.getStr (cstr "group"))
  let name ← ofExcept (params.getStr (cstr "name"))
  if !validateGroup group then
    faultf .inval [.chars (cstr "invalid group value: "), .str group]
  if group = cstr "all" then
    faultf .inval [.chars (cstr "cannot remove reserved group 'all'")]
  let gid ← vxdbGetgid group
  if gid = 0 then fault .novg
  let sql ← if strIsempty name then pure (sqlGroupRemove gid)
    else do
      let xid ← validateMember name
      pure (sqlMemberRemove xid gid)
  let outcome ← vxdbExec sql
  if !outcome.ok then vxdbFault (cstr "m_vg_remove")
  return .nil

def sqlGroups : List Piece :=
  [.chars (cstr "SELECT name FROM groups ORDER BY name ASC")]

def sqlMemberNames (gid : Int) : List Piece :=
  [.chars (cstr "SELECT xid_name_map.name FROM xid_name_map INNER JOIN xid_gid_map "),
    .chars (cstr "ON xid_name_map.xid = xid_gid_map.xid WHERE xid_gid_map.gid = "), .int gid,
    .chars (cstr " ORDER BY xid_name_map.name ASC")]

def mVgList (host : Host) (call : Call) : Method Xml := do
  let params ← methodInit host call capAuth {}
  let group ← ofExcept (params.getStr (cstr "group"))
  let sql ← if strIsempty group then pure sqlGroups
    else do
      if !validateGroup group then
        faultf .inval [.chars (cstr "invalid group value: "), .str group]
      if group = cstr "all" then
        faultf .inval [.chars (cstr "cannot list group 'all', use vxdb.list instead")]
      let gid ← vxdbGetgid group
      if gid = 0 then fault .novg
      pure (sqlMemberNames gid)
  match ← vxdbPrepare sql with
  | none => vxdbFault (cstr "m_vg_list")
  | some rows => return textList rows

/-! ## Operations on all members -/

def sqlAllMembers : List Piece :=
  [.chars (cstr "SELECT xid,name FROM xid_name_map")]

def sqlMembers (gid : Int) : List Piece :=
  [.chars (cstr "SELECT xid_name_map.xid,xid_name_map.name FROM xid_name_map "),
    .chars (cstr "INNER JOIN xid_gid_map ON xid_name_map.xid = xid_gid_map.xid "),
    .chars (cstr "WHERE xid_gid_map.gid = "), .int gid]

/-- The members of a group; the list is built from its end. -/
def vgListInit (group : Str) : Method (List (Int × Str)) := do
  if !validateGroup group then
    faultf .inval [.chars (cstr "invalid group value: "), .str group]
  let sql ← if group = cstr "all" then pure sqlAllMembers
    else do
      let gid ← vxdbGetgid group
      if gid = 0 then fault .novg
      pure (sqlMembers gid)
  match ← vxdbPrepare sql with
  | none => vxdbFault (cstr "vg_list_init")
  | some rows => return (rows.map fun row =>
      (uint32 (vxdbColumnInt row 0), vxdbColumnText row 1)).reverse

/-- Call a method on a member. The environment keeps a fault, and a method called with one
returns at once. -/
def callMember (method : Call → Method Xml) (name : Str) :
    Option Fault → Method (Option Fault)
  | some fault => pure (some fault)
  | none => do
      match ← (method (.internal (nameParams name))).attempt with
      | .ok _ => return none
      | .error fault => return some fault

/-- End a request with the fault its environment has, if any. -/
def finishRequest : Option Fault → Method Xml
  | some fault => .fail fault
  | none => pure .nil

/-- Call a method on every member that runs when its turn comes. -/
def eachRunning (method : Call → Method Xml) (environment : Option Fault) :
    List (Int × Str) → Method Xml
  | [] => finishRequest environment
  | (xid, name) :: rest => do
      if (← sys (.vxInfo xid)).rc = 0 then
        eachRunning method (← callMember method name environment) rest
      else eachRunning method environment rest

/-- Call a method on every member that does not run when its turn comes. -/
def eachStopped (method : Call → Method Xml) (environment : Option Fault) :
    List (Int × Str) → Method Xml
  | [] => finishRequest environment
  | (xid, name) :: rest => do
      let info ← sys (.vxInfo xid)
      if info.rc = -1 then
        if info.errno = esrch then
          eachStopped method (← callMember method name environment) rest
        else sysFault (cstr "m_vg_vx_start") (cstr "vx_info")
      else eachStopped method environment rest

/-- A group request: read the group, list its members, and loop over them. -/
def groupRequest (host : Host) (loop : List (Int × Str) → Method Xml) (call : Call) :
    Method Xml := do
  let params ← methodInit host call capInit {}
  let group ← ofExcept (params.getStr (cstr "group"))
  loop (← vgListInit group)

def mVgVxStart (host : Host) : Call → Method Xml :=
  groupRequest host (eachStopped (mVxStart host) none)

def mVgVxStop (host : Host) : Call → Method Xml :=
  groupRequest host (eachRunning (mVxStop host) none)

def mVgVxReboot (host : Host) : Call → Method Xml :=
  groupRequest host (eachRunning (mVxReboot host) none)

def mVgVxRestart (host : Host) : Call → Method Xml :=
  groupRequest host (eachRunning (mVxRestart host) none)

end Vcd
