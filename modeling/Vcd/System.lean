import Vcd.Vxdb.Tables
import Vcd.Validate
import Vcd.Process.Pool

/-!
# Requests as processes

Every request is handled by a process of its own. A method is a program over three kinds
of operations: SQL texts on the database, calls of the kernel and the file system, and
locks. The kernel is an oracle: nothing is assumed of its answers.
-/

namespace Vcd

open Sql Process

/-- Values of the XML-RPC protocol. -/
inductive Xml where
  | nil
  | int (value : Int)
  | bool (value : Bool)
  | str (value : Str)
  | array (items : List Xml)
  | struct (members : List (Str × Xml))

/-- Error codes of `methods.h`. -/
inductive MErr where
  | auth | perm | nouser | inval | exist | novps | novg | stopped | running | busy
  | vxdb | conf | sys
  deriving DecidableEq, Repr

def MErr.id : MErr → Int
  | .auth => 100
  | .perm => 101
  | .nouser => 102
  | .inval => 200
  | .exist => 201
  | .novps => 202
  | .novg => 203
  | .stopped => 300
  | .running => 301
  | .busy => 302
  | .vxdb => 400
  | .conf => 401
  | .sys => 500

def MErr.strerror : MErr → Str
  | .auth => cstr "Unauthorized"
  | .perm => cstr "Operation not permitted"
  | .nouser => cstr "User does not exist"
  | .inval => cstr "Invalid request"
  | .exist => cstr "Object already exists"
  | .novps => cstr "Virtual server does not exist"
  | .novg => cstr "Virtual server group does not exist"
  | .stopped => cstr "Virtual server not running"
  | .running => cstr "Virtual server still/already running"
  | .busy => cstr "Operation still in progress"
  | .vxdb => cstr "Error in vxdb"
  | .conf => cstr "Invalid configuration"
  | .sys => cstr "System call failed"

/-- `MEEXEC`, to which the exit status of a command is added. -/
def meexec : Int := 1000

/-- A fault in the environment of a request. The messages of the database engine and of
the system are left out of faults that only pass them on. -/
inductive Fault where
  | code (id : Int) (message : Str)
  | vxdb (function : Str)
  | sys (function message : Str)
  | request
  deriving DecidableEq, Repr

def Fault.of (error : MErr) : Fault :=
  .code error.id error.strerror

/-- `method_set_faultf`. -/
def Fault.ofFormat (error : MErr) (message : List Piece) : Fault :=
  .code error.id (render message)

/-! ## Operations -/

/-- Method bodies whose extent is observed. -/
inductive Body where
  | start | stop | reboot | restart | rename | remove
  deriving DecidableEq, Repr

inductive Mark where
  | enter (body : Body) (name : Str)
  | leave
  deriving DecidableEq, Repr

/-- Calls of the kernel, the file system and other processes. -/
inductive Sys where
  | vxInfo (xid : Int) | nxInfo (xid : Int)
  | vxFlagsSet (xid : Int) (flags mask : List Str) | nxFlagsSet (xid : Int) (mask : List Str)
  | vxCreate (xid : Int) | nxCreate (xid : Int)
  | vxKill (xid pid sig : Int) | vxMigrate (xid : Int) | nxMigrate (xid : Int)
  | vxStat (xid : Int) | vxLimitStat (xid : Int) (limit : Str) | nxSockStat (xid : Int) (id : Str)
  | vxBcapsSet (xid : Int) (flags : List Str) (mask : UInt64)
  | vxCcapsSet (xid : Int) (flags : List Str) (mask : UInt64)
  | vxUnameSet (xid : Int) (type value : Str)
  | vxLimitMaskGet (type : Str) | vxLimitSet (xid : Int) (type : Str) (soft max : Int)
  | vxSchedSet (xid : Int) (cpuid : Option Int) (fillrate interval fillrate2 interval2
      tokensmin tokensmax : Int) (idle : Bool)
  | nxAddrAdd (xid : Int) (addr : Str) (broadcast : Bool)
  | dxLimitRemove (xid : Int) (vdir : Str) | dxLimitAdd (xid : Int) (vdir : Str)
  | dxLimitSet (xid : Int) (vdir : Str) (spaceUsed spaceTotal inodesUsed inodesTotal
      reserved : Int)
  | countInodes (vdir : Str) (xid : Int)
  | nsEnter (xid : Int) | nsSet (xid : Int) | nsClone
  | chrootSecureChdir (root path : Str) | chroot | chdir (path : Str)
  | pipe | fork | waitpid | readfile | execReplace (command : Str) | sleep
  | isdir (path : Str) | isfile (path : Str) | ispath (path : Str) | ismount (path : Str)
  | runlink (path : Str) | mkdirp (path : Str) | mkdir (path : Str) | rmdir (path : Str)
  | mknod (path : Str) | unlink (path : Str)
  | openTrunc (path : Str) | openAppend (path : Str) | dprintf (path text : Str)
  | fillVdir (template vdir : Str) (copy : Bool)
  | readdir (path : Str) | cfgParse (path : Str) | time
  deriving DecidableEq, Repr

/-- The answer to a call: its return value, the error number, what was read. -/
structure Answer where
  rc : Int
  errno : Int := 0
  text : Str := []
  words : List Int := []
  names : List Str := []

def esrch : Int := 3

inductive Op where
  | prepare (sql : Str)
  | exec (sql : Str)
  | sys (call : Sys)
  | testLock (name : Str)
  | lock (name : Str)
  | mark (mark : Mark)

abbrev Op.Reply : Op → Type
  | .prepare _ => Option (List Row)
  | .exec _ => Sql.Outcome
  | .sys _ => Answer
  | .testLock _ => Bool
  | .lock _ | .mark _ => Unit

abbrev daemon : Interface where
  Op := Op
  Reply := Op.Reply

abbrev Method := Program daemon Fault

/-! ## The shared state -/

/-- The database, the holders of the locks, and the kernel, whose answer depends on the
call and on how many calls came before it. The database file can be written, and nobody else
has it locked. -/
structure World where
  db : Vxdb
  holder : Str → Option Nat
  kernel : Nat → Sys → Answer
  clock : Nat

namespace World

/-- A world in which nothing has happened. -/
def boot (db : Vxdb) (kernel : Sys → Answer) : World where
  db
  holder := fun _ => none
  kernel := fun _ => kernel
  clock := 0

def performs (self : Nat) (world : World) : (op : Op) → op.Reply × World
  | .prepare sql => (prepareText world.db sql, world)
  | .exec sql =>
      let (db, outcome) := execText world.db sql
      (outcome, { world with db })
  | .sys call => (world.kernel world.clock call, { world with clock := world.clock + 1 })
  | .testLock name => (world.holder name |>.all (· == self), world)
  | .lock name => ((), { world with holder := Function.update world.holder name (some self) })
  | .mark _ => ((), world)

/-- Waiting for a lock that another process holds is the only operation that blocks. -/
def enables (self : Nat) (world : World) : Op → Bool
  | .lock name => world.holder name |>.all (· == self)
  | _ => true

/-- The end of a process releases its locks. -/
def release (self : Nat) (world : World) : World :=
  { world with holder := fun name =>
      if world.holder name = some self then none else world.holder name }

end World

abbrev machine : Machine daemon where
  State := World
  enabled := World.enables
  step := World.performs
  halt := World.release

/-! ## Processes on one database file -/

/-- A world whose database file several processes share. While another process has the file
locked for longer than the timeout of `vxdb_init`, a text is refused: `vxdb_exec` executes
nothing of it, and `vxdb_prepare` returns no statement. Which texts meet with this is told by
their number. The query behind a statement is repeated until the file is free. -/
structure Shared extends World where
  refuses : Nat → Bool
  texts : Nat

namespace Shared

/-- A shared world in which nothing has happened. -/
def boot (db : Vxdb) (kernel : Sys → Answer) (refuses : Nat → Bool) : Shared where
  toWorld := .boot db kernel
  refuses
  texts := 0

/-- The next text is refused. -/
def refusing (shared : Shared) : Bool :=
  shared.refuses shared.texts

/-- What is done to the world is done to the shared world. -/
def lift {α : Type} (shared : Shared) (result : α × World) : α × Shared :=
  (result.1, { shared with toWorld := result.2 })

/-- A text goes to the database, unless it is refused. -/
def submit {α : Type} (shared : Shared) (refused : α) (result : α × World) : α × Shared :=
  let next := { shared with texts := shared.texts + 1 }
  if shared.refusing then (refused, next) else next.lift result

def performs (self : Nat) (shared : Shared) : (op : Op) → op.Reply × Shared
  | .prepare sql => shared.submit none (shared.toWorld.performs self (.prepare sql))
  | .exec sql =>
      shared.submit { ok := false, changes := 0 } (shared.toWorld.performs self (.exec sql))
  | .sys call => shared.lift (shared.toWorld.performs self (.sys call))
  | .testLock name => shared.lift (shared.toWorld.performs self (.testLock name))
  | .lock name => shared.lift (shared.toWorld.performs self (.lock name))
  | .mark mark => shared.lift (shared.toWorld.performs self (.mark mark))

/-- Where no text is refused, an operation does what it does to the world. -/
theorem performs_eq {shared : Shared} (accepts : shared.refusing = false) (self : Nat) (op : Op) :
    (shared.performs self op).1 = (shared.toWorld.performs self op).1 ∧
      (shared.performs self op).2.toWorld = (shared.toWorld.performs self op).2 := by
  cases op with
  | prepare sql => simp [performs, submit, accepts, lift]
  | exec sql => simp [performs, submit, accepts, lift]
  | _ => exact ⟨rfl, rfl⟩

/-- A text is executed as a whole, unless it is refused. -/
theorem performs_exec (shared : Shared) (self : Nat) (sql : Str) :
    ((shared.performs self (.exec sql)).2.db, (shared.performs self (.exec sql)).1) =
      if shared.refusing then (shared.db, { ok := false, changes := 0 })
      else execText shared.db sql := by
  cases refused : shared.refusing <;> simp [performs, submit, refused, lift, World.performs]

/-- A text that changes the database was executed. -/
theorem db_exec {shared : Shared} {self : Nat} {sql : Str}
    (changed : (shared.performs self (.exec sql)).2.db ≠ shared.db) :
    (shared.performs self (.exec sql)).2.db = (execText shared.db sql).1 := by
  have performed := congrArg Prod.fst (performs_exec shared self sql)
  dsimp only at performed
  rw [performed] at changed ⊢
  split
  next refused => exact absurd (by rw [if_pos refused]) changed
  next => rfl

/-- What executes no text leaves the database as it is. -/
theorem db_performs {op : Op} (reads : ∀ sql, op ≠ .exec sql) (shared : Shared) (self : Nat) :
    (shared.performs self op).2.db = shared.db := by
  cases op with
  | exec sql => exact absurd rfl (reads sql)
  | prepare sql =>
      cases refused : shared.refusing <;>
        simp [performs, submit, refused, lift, World.performs]
  | _ => rfl

/-- Only a call for a lock changes who holds the locks. -/
theorem holder_performs {op : Op} (unlocking : ∀ name, op ≠ .lock name) (shared : Shared)
    (self : Nat) : (shared.performs self op).2.holder = shared.holder := by
  cases op with
  | lock name => exact absurd rfl (unlocking name)
  | prepare sql | exec sql =>
      cases refused : shared.refusing <;>
        simp [performs, submit, refused, lift, World.performs]
  | _ => rfl

/-- A query that is answered is answered by the database. -/
theorem prepared {shared : Shared} {self : Nat} {sql : Str} {rows : List Row}
    (answered : (shared.performs self (.prepare sql)).1 = some rows) :
    prepareText shared.db sql = some rows := by
  unfold performs submit at answered
  dsimp only at answered
  split at answered
  next => cases answered
  next => exact answered

end Shared

abbrev sharedMachine : Machine daemon where
  State := Shared
  enabled := fun self shared => shared.toWorld.enables self
  step := Shared.performs
  halt := fun self shared => { shared with toWorld := shared.toWorld.release self }

/-! ## Elementary methods -/

def fault {α : Type} (error : MErr) : Method α :=
  .fail (.of error)

def faultf {α : Type} (error : MErr) (message : List Piece) : Method α :=
  .fail (.ofFormat error message)

def vxdbFault {α : Type} (function : Str) : Method α :=
  .fail (.vxdb function)

def sysFault {α : Type} (function message : Str) : Method α :=
  .fail (.sys function message)

/-- Call the kernel. -/
def sys (call : Sys) : Method Answer :=
  .perform (I := daemon) (.sys call)

def vxdbPrepare (sql : List Piece) : Method (Option (List Row)) :=
  .perform (I := daemon) (.prepare (render sql))

def vxdbExec (sql : List Piece) : Method Sql.Outcome :=
  .perform (I := daemon) (.exec (render sql))

/-- Note that the body of a method runs on a named virtual server. -/
def inside {α : Type} (body : Body) (name : Str) (program : Method α) : Method α := do
  Program.perform (I := daemon) (.mark (.enter body name))
  let outcome ← program.attempt
  Program.perform (I := daemon) (.mark .leave)
  match outcome with
  | .ok value => pure value
  | .error fault => .fail fault

end Vcd
