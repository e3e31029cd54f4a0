import Vcd.Process.Deaths
import Vcd.Vxdb.Sanity

/-!
# The schema of the database file

`vxdb_sanity_check` as a whole: the version of the file, its tables and indices, and the users.
The daemon dies wherever something is wrong that it does not repair.
-/

namespace Vcd

open Sql Process

/-! ## The file -/

/-- An entry of `sqlite_master`. -/
inductive SchemaObject where
  | table (name : Str) (columns : List Str)
  | index (name table : Str) (columns : List Str)
  deriving DecidableEq, Repr

def SchemaObject.name : SchemaObject → Str
  | .table name _ => name
  | .index name _ _ => name

/-- A database file, and the rest of the world. -/
structure VxdbFile where
  version : Int
  master : List SchemaObject
  world : World

/-- The name of a unique index. -/
def indexName (table : Table) (columns : List Str) : Str :=
  cstr "u_" ++ table.name ++ '_' :: [','].intercalate columns

/-- The table and the indices that `vxdb_create_table` creates. -/
def Table.objects (table : Table) : List SchemaObject :=
  .table table.name table.columns ::
    table.unique.map fun columns => .index (indexName table columns) table.name columns

/-- What the check asks of the library: the version, whether there is a certain entry of the
schema, new entries, and the statements on rows. Each transaction is one operation. -/
inductive SchemaOp where
  | userVersion
  | setUserVersion (version : Int)
  | anyObject
  | hasTable (name : Str)
  | hasIndex (name table : Str)
  | createTable (table : Table)
  | createIndex (table : Table) (columns : List Str)
  | insertGroup (gid : Int) (name : Str)
  | daemon (op : Op)

@[reducible] def SchemaOp.Reply : SchemaOp → Type
  | .userVersion => Option Int
  | .daemon op => op.Reply
  | _ => Bool

/-- The library as the check uses it. -/
@[reducible] def schemaLibrary : Interface where
  Op := SchemaOp
  Reply := SchemaOp.Reply

/-- A program of the check. -/
abbrev Checking := Program schemaLibrary Fault

namespace VxdbFile

variable (file : VxdbFile)

/-- The file has a table of this name. -/
def hasTable (name : Str) : Bool :=
  file.master.any fun object => match object with
    | .table known _ => known = name
    | .index _ _ _ => false

def hasIndex (name table : Str) : Bool :=
  file.master.any fun object => match object with
    | .table _ _ => false
    | .index known owner _ => known = name && owner = table

/-- A name that no entry has yet. -/
def fresh (name : Str) : Bool :=
  file.master.all fun object => object.name ≠ name

/-- Entries are added if all their names are new. -/
def create (objects : List SchemaObject) : Bool × VxdbFile :=
  if objects.all fun object => file.fresh object.name then
    (true, { file with master := file.master ++ objects })
  else (false, file)

/-- Insert a group, if there is a table for it. -/
def insertGroup (gid : Int) (name : Str) : Bool × VxdbFile :=
  if file.hasTable Table.groups.name then
    match file.world.db.insert Table.groups [.int gid, .str name] with
    | some db => (true, { file with world := { file.world with db } })
    | none => (false, file)
  else (false, file)

/-- The effect of an operation. An index needs its table. -/
def performs (process : Nat) : (op : SchemaOp) → op.Reply × VxdbFile
  | .userVersion => (some file.version, file)
  | .setUserVersion version => (true, { file with version })
  | .anyObject => (!file.master.isEmpty, file)
  | .hasTable name => (file.hasTable name, file)
  | .hasIndex name table => (file.hasIndex name table, file)
  | .createTable table => file.create table.objects
  | .createIndex table columns =>
      if file.hasTable table.name then
        file.create [.index (indexName table columns) table.name columns]
      else (false, file)
  | .insertGroup gid name => file.insertGroup gid name
  | .daemon op =>
      let (reply, world) := file.world.performs process op
      (reply, { file with world })

end VxdbFile

/-- The machine of the check. -/
def fileMachine : Machine schemaLibrary where
  State := VxdbFile
  enabled _ _ _ := true
  step process file op := file.performs process op
  halt _ file := file

/-- The daemon's operations among those of the check. -/
def rowOperations : Program.Embedding daemon schemaLibrary where
  op := .daemon
  reply _ reply := reply

/-! ## The check -/

/-- `log_error_and_die`. -/
def die {α : Type} : Checking α :=
  .exit

def vxdbCreateTable (table : Table) : Checking Unit := do
  if !(← Program.perform (I := schemaLibrary) (.createTable table)) then die
  if table = .groups then
    if !(← Program.perform (I := schemaLibrary) (.insertGroup 1 (cstr "onboot"))) then die

def vxdbCreateIndex (table : Table) (columns : List Str) : Checking Unit := do
  if !(← Program.perform (I := schemaLibrary) (.createIndex table columns)) then die

def vxdbSanityCheckIndex (table : Table) (columns : List Str) : Checking Unit := do
  if !(← Program.perform (I := schemaLibrary) (.hasIndex (indexName table columns) table.name))
    then vxdbCreateIndex table columns

def vxdbSanityCheckUnique (table : Table) : Checking Unit :=
  table.unique.forM (vxdbSanityCheckIndex table)

def vxdbSanityCheckTable (table : Table) : Checking Unit := do
  if ← Program.perform (I := schemaLibrary) (.hasTable table.name) then
    vxdbSanityCheckUnique table
  else vxdbCreateTable table

def vxdbVersionMajor : Int := 1
def vxdbVersionMinor : Int := 1

def vxdbVersion : Int :=
  vxdbVersionMajor * 256 + vxdbVersionMinor

/-- The check of the version: the major one is in the bits above the low byte. -/
def vxdbCheckVersion (version : Int) : Checking Unit := do
  if version = 0 then
    -- a file without a version must not hold anything
    if ← Program.perform (I := schemaLibrary) .anyObject then die
  else if version / 256 < vxdbVersionMajor then die
  else if version / 256 > vxdbVersionMajor || version % 256 > vxdbVersionMinor then die

/-- `vxdb_init` once the file is open. -/
def vxdbInit : Checking Unit := do
  match ← Program.perform (I := schemaLibrary) .userVersion with
  | none => die
  | some version =>
      vxdbCheckVersion version
      Table.all.forM vxdbSanityCheckTable
      if !(← Program.perform (I := schemaLibrary) (.setUserVersion vxdbVersion)) then die
      vxdbSanityCheck.embed rowOperations

end Vcd
