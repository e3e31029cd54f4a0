import Vcd.Discipline.Rights
import Vcd.Writes

/-!
# Deeds

What the texts of requests mean to do. A deed is a list of changes of the tables, done as a
whole or not at all, and it is what its request asks for.
-/

namespace Vcd

open Sql Process

/-! ## Deeds -/

/-- The counters of the daemon. -/
inductive Counter where
  | requests | flogins | nomethod
  deriving DecidableEq, Repr

namespace Counter

def sql : Counter → List Piece
  | .requests => sqlRequests
  | .flogins => sqlFlogins
  | .nomethod => sqlNomethod

/-- The columns a counter adds one to. -/
def columns : Counter → List Str
  | .requests => [cstr "requests"]
  | .flogins => [cstr "flogins"]
  | .nomethod => [cstr "requests", cstr "nomethod"]

end Counter

/-- The row is that of the last start of the daemon. -/
def current (db : Vxdb) (row : Row) : Bool :=
  (Table.vcd.cell row (cstr "uptime")).same
    (.maximum ((db.rows Table.vcd).map fun row => Table.vcd.cell row (cstr "uptime")))

def Counter.change (counter : Counter) : Change :=
  .update Table.vcd current (vxdbSchema.assign Table.vcd (counter.columns.map fun column =>
    (column, .add (.column none column) (.int 1))))

/-- An operation on the database. -/
inductive Deed where
  | count (counter : Counter)
  | setting (setting : Setting) (xid : Int)
  | rights (write : RightsWrite)
  | remove (xid : Int)
  | rename (newname : Str) (xid : Int)
  | create (xid : Int) (entries : Entries)

namespace Deed

def changes : Deed → List Change
  | .count counter => [counter.change]
  | .setting chosen xid => [chosen.change (int32 xid)]
  | .rights write => write.changes
  | .remove xid => removedTables.map (deleteXid xid)
  | .rename newname xid => [renameChange newname xid]
  | .create xid entries => createChanges xid entries

/-- The database after the deed, if none of its changes violates a unique index. -/
def act (deed : Deed) (db : Vxdb) : Option Vxdb :=
  applyAll db deed.changes

end Deed

theorem runs_counter (counter : Counter) : Runs (render counter.sql) [counter.change] := by
  cases counter with
  | requests => exact runs_of_read (by simp [Counter.sql, sqlRequests, Piece.Closed]) (by rfl)
  | flogins => exact runs_of_read (by simp [Counter.sql, sqlFlogins, Piece.Closed]) (by rfl)
  | nomethod => exact runs_of_read (by simp [Counter.sql, sqlNomethod, Piece.Closed]) (by rfl)

/-! ## What is asked for -/

section

variable (setup : Setup) (request : Request) (past : Past)

/-- The text does a deed that the request asks for, and the ids in it are those that the
request found out. -/
inductive Intends : Deed → Str → Prop where
  | setting {name : Str} {sql : Int → List Piece} {setting : Setting} (xid : Int)
      (kind : writeKind request.method = some (.config setting.table))
      (settling : Settling setup request setting.table name sql) (sets : Sets sql setting)
      (found : request.FoundXid (recent past) xid) :
      Intends (.setting setting xid) (render (sql xid))
  | flag {name : Str} {sql : Int → List Piece} {setting : Setting} (given : Int)
      (flagging : Flagging request sql setting)
      (param : request.params.getInt (cstr "xid") = .ok given)
      (named : Named (recent past) (uint32 given) name) :
      Intends (.setting setting (uint32 given)) (render (sql (uint32 given)))
  | rights (write : RightsWrite) (asked : write.Asked setup.host request)
      (known : write.Known request past) : Intends (.rights write) (render write.sql)
  | remove (xid : Int) (method : request.method = cstr "vx.remove")
      (found : request.FoundXid (recent past) xid) :
      Intends (.remove xid) (render (sqlVxRemove xid))
  | rename {newname : Str} (xid : Int) (method : request.method = cstr "vx.rename")
      (known : request.text (cstr "newname") = .ok newname) (valid : validateName newname = true)
      (found : request.FoundXid (recent past) xid) :
      Intends (.rename newname xid) (render (sqlVxRename newname xid))
  | create {user name param vdir : Str} {conf : TemplateConf} {entries : Entries} (xid : Int)
      (method : request.method = cstr "vx.create")
      (creating : Creating setup request past user name param vdir)
      (target : Looked (recent past) name xid ∨ Chosen (recent past) xid)
      (known : conf = {} ∨ ∃ path, setup.templates path = .parsed conf)
      (assembled : templateEntries conf vdir name = .ok entries) :
      Intends (.create xid entries) (printed setup.host (sqlCreate xid entries))

end

variable {setup : Setup} {request : Request} {past : Past} {deed : Deed} {kind : WriteKind}
  {sql : Str}

/-- What a request without quotes may execute does a deed that it asks for. -/
theorem Write.intends (write : Write setup request past kind sql)
    (known : writeKind request.method = some kind) (free : request.Free) :
    ∃ deed, Intends setup request past deed sql := by
  cases write with
  | config user name xid _ _ settling _ looked =>
      obtain ⟨setting, rfl, sets⟩ := settling.settles free.closed
      exact ⟨_, .setting xid known settling sets ⟨name, settling.name_eq, looked⟩⟩
  | restart name given _ flagging param named => exact ⟨_, .flag given flagging param named⟩
  | rights user write _ _ found asked => exact ⟨_, .rights write asked found⟩
  | remove user name xid _ _ nameEq _ _ looked =>
      exact ⟨_, .remove xid (writeKind_remove known)
        ⟨name, nameEq, looked.mono since_since_subset⟩⟩
  | rename user name newname xid _ _ nameEq newnameEq valid _ _ looked =>
      exact ⟨_, .rename xid (writeKind_rename known) newnameEq valid
        ⟨name, nameEq, looked.mono since_since_subset⟩⟩
  | create user name param vdir xid conf entries creating target read assembled =>
      exact ⟨_, .create xid (writeKind_create known) creating target read assembled⟩

/-- A text does its deed as a whole or not at all, if what a creation pastes is clean. -/
theorem Intends.runs (intends : Intends setup request past deed sql) (free : request.Free)
    (clean : ∀ xid entries, deed = .create xid entries → entries.Clean) :
    Runs sql deed.changes := by
  cases intends with
  | setting xid kind settling sets found => exact sets xid
  | flag given flagging param named => exact flagging.sets.2 (uint32 given)
  | rights write asked known => exact write.runs (asked.free free)
  | remove xid method found => exact runs_sqlVxRemove xid
  | rename xid method known valid found => exact runs_sqlVxRename (free _ _ known) xid
  | create xid method creating target known assembled =>
      rw [printed_of_clean setup.host (clean xid _ rfl)]
      exact runs_sqlCreate (clean xid _ rfl) xid

end Vcd
