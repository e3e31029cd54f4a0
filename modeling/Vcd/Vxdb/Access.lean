import Vcd.System

/-!
# Access to vxdb

The readers of result columns and the lookups of `vxdb.c`. Statement texts have names of
their own, so that what they mean can be stated once.
-/

namespace Vcd

open Sql Process

/-! ## Columns -/

def column (row : Row) (index : Nat) : Value :=
  row.getD index .null

def vxdbColumnText (row : Row) (index : Nat) : Str :=
  match column row index with
  | .null => []
  | .int value => decimal value
  | .str value => value

/-- The integer a scan of the column's text finds. -/
def columnScan (row : Row) (index : Nat) : Int :=
  match column row index with
  | .null => 0
  | .int value => value
  | .str value => scanInt value

def vxdbColumnInt (row : Row) (index : Nat) : Int :=
  int32 (columnScan row index)

def vxdbColumnUint32 (row : Row) (index : Nat) : Int :=
  uint32 (columnScan row index)

def vxdbColumnUint64 (row : Row) (index : Nat) : Int :=
  uint64 (columnScan row index)

/-- A context id formatted with `%d`. -/
def xidPiece (xid : Int) : Piece :=
  .int (int32 xid)

/-! ## Lookups -/

def sqlGetxid (name : Str) : List Piece :=
  [.chars (cstr "SELECT xid FROM xid_name_map WHERE name = '"), .str name, .chars (cstr "'")]

def vxdbGetxid (name : Str) : Method Int := do
  if !validateName name then return 0
  match ← vxdbPrepare (sqlGetxid name) with
  | some (row :: _) => return vxdbColumnUint32 row 0
  | _ => return 0

def sqlGetname (xid : Int) : List Piece :=
  [.chars (cstr "SELECT name FROM xid_name_map WHERE xid = "), xidPiece xid]

def vxdbGetname (xid : Int) : Method (Option Str) := do
  if !validateXid xid then return none
  match ← vxdbPrepare (sqlGetname xid) with
  | some (row :: _) => return some (vxdbColumnText row 0)
  | _ => return none

def sqlGetvdir (xid : Int) : List Piece :=
  [.chars (cstr "SELECT vdir FROM vdir WHERE xid = "), xidPiece xid]

/-- The recorded directory of a virtual server, or the default one. -/
def vxdbGetvdir (host : Host) (name : Str) : Method Str := do
  let xid ← vxdbGetxid name
  let vdir ← if xid = 0 then pure [] else do
    match ← vxdbPrepare (sqlGetvdir xid) with
    | some (row :: _) => pure (vxdbColumnText row 0)
    | _ => pure []
  return if strIsempty vdir then strPathConcat host.vbasedir name else vdir

def sqlGetgid (group : Str) : List Piece :=
  [.chars (cstr "SELECT gid FROM groups WHERE name = '"), .str group, .chars (cstr "'")]

def vxdbGetgid (group : Str) : Method Int := do
  if !validateGroup group then return 0
  match ← vxdbPrepare (sqlGetgid group) with
  | some (row :: _) => return vxdbColumnInt row 0
  | _ => return 0

/-- Format and execute a text that is itself assembled: the executed text is the result of
a second formatted print with no arguments. -/
def vxdbExecFormat (host : Host) (format : Str) : Method Sql.Outcome :=
  .perform (I := daemon) (.exec (if '%' ∈ format then host.strayFormat format else format))

end Vcd
