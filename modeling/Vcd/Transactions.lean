import Vcd.Housed
import Vcd.Refusals
import Vcd.Sql.Transactions

/-!
# Transactions that stay open

A request on a connection that outlives it. The methods that execute a transaction execute
it as one text and return when it fails; none of them rolls it back.
-/

namespace Vcd

open Sql Process

variable {setup : Setup} {request : Request} {α β : Type}

/-! ## Connections that outlive a request -/

/-- A connection, the outside world, and which statements of which texts fail for a reason of
their own, and how. -/
structure Session where
  connection : Connection vxdbSchema
  holder : Str → Option Nat
  kernel : Nat → Sys → Answer
  clock : Nat
  faulty : Nat → Nat → Option Failure
  executed : Nat

namespace Session

/-- Execute a text on the connection. -/
def executes (session : Session) (sql : Str) : Connection vxdbSchema × Option Failure :=
  session.connection.execFaulty (session.faulty session.executed) (commands vxdbSchema sql)

def performs (self : Nat) (session : Session) : (op : Op) → op.Reply × Session
  | .prepare sql => (prepareText session.connection.db sql, session)
  | .exec sql =>
      let (connection, failure) := session.executes sql
      ({ ok := failure.isNone, changes := connection.changes },
        { session with connection, executed := session.executed + 1 })
  | .sys call =>
      (session.kernel session.clock call, { session with clock := session.clock + 1 })
  | .testLock name => (session.holder name |>.all (· == self), session)
  | .lock name =>
      ((), { session with holder := Function.update session.holder name (some self) })
  | .mark _ => ((), session)

end Session

abbrev sessionMachine : Machine daemon where
  State := Session
  enabled := fun _ _ _ => true
  step := Session.performs
  halt := fun _ session => session

/-! ## Programs that execute one script -/

/-- The text neither starts nor ends a transaction. -/
def PlainText (sql : Str) : Prop :=
  isPlain (commands vxdbSchema sql) = true

/-- The program executes nothing. -/
def Steady : Op → Prop
  | .exec _ => False
  | _ => True

/-- A text with a transaction is executed once at most, and nothing after it. -/
def WritesOnce : Method α → Prop
  | .pure _ | .fail _ | .exit => True
  | .op (.exec sql) next => (PlainText sql ∧ ∀ outcome, WritesOnce (next outcome)) ∨
      ∀ outcome, (next outcome).Within (I := daemon) Steady Steady
  | .op _ next => ∀ reply, WritesOnce (next reply)
  | .fork next => (next true).Orphan (I := daemon) Steady ∧ WritesOnce (next false)

theorem Lookup.steady {program : Method α} (lookup : Lookup program) :
    program.Within (I := daemon) Steady Steady :=
  (lookup.within Steady).mono fun op query => by
    cases op with
    | exec sql => exact query.elim
    | _ => trivial

theorem steady_sys {call : Sys} {rest : Answer → Method β}
    (later : ∀ answer, (rest answer).Within (I := daemon) Steady Steady) :
    (sys call >>= rest).Within (I := daemon) Steady Steady :=
  ⟨trivial, later⟩

theorem steady_ite {condition : Prop} [Decidable condition] {program other : Method α}
    (yes : program.Within (I := daemon) Steady Steady)
    (no : other.Within (I := daemon) Steady Steady) :
    (if condition then program else other).Within (I := daemon) Steady Steady := by
  split
  · exact yes
  · exact no

theorem steady_sysOrFault (function message : Str) (call : Sys) :
    (sysOrFault function message call).Within (I := daemon) Steady Steady :=
  steady_sys fun _ => steady_ite trivial trivial

theorem steady_sysAll {error : Method Unit} (calls : List Sys)
    (failing : error.Within (I := daemon) Steady Steady) :
    (sysAll error calls).Within (I := daemon) Steady Steady := by
  induction calls with
  | nil => trivial
  | cons call calls ih => exact steady_sys fun _ => steady_ite failing ih

/-- Whatever the program executes has no transaction in it. -/
def Plainly : Op → Prop
  | .exec sql => PlainText sql
  | _ => True

theorem plainText_counter {sql : Str} (mem : sql ∈ counterTexts) : PlainText sql := by
  simp only [counterTexts, List.mem_cons, List.not_mem_nil, or_false] at mem
  unfold PlainText
  rcases mem with rfl | rfl | rfl
  · rfl
  · rfl
  · rfl

theorem steady_of_quiet {op : Op} (quiet : Quiet op) : Steady op := by
  cases op with
  | exec sql => exact quiet.elim
  | _ => trivial

theorem Silent.steady {program : Method α} (silent : Silent program) :
    program.Within (I := daemon) Steady Steady :=
  Program.Within.weaken silent (fun _ => steady_of_quiet) fun _ => steady_of_quiet

theorem plainly_of_counting {program : Method α}
    (counting : program.Within (I := daemon) Counting Quiet) :
    program.Within (I := daemon) Plainly Steady := by
  refine counting.weaken (fun op counts => ?_) fun _ => steady_of_quiet
  cases op with
  | exec sql => exact plainText_counter counts
  | _ => trivial

namespace WritesOnce

/-- A program that executes nothing executes nothing twice. -/
theorem of_steady {program : Method α}
    (within : program.Within (I := daemon) Steady Steady) : WritesOnce program := by
  induction program with
  | pure value => trivial
  | fail fault => trivial
  | exit => trivial
  | op op next ih =>
      have later (reply : op.Reply) := ih reply (within.2 reply)
      cases op with
      | exec sql => exact within.1.elim
      | _ => exact later
  | fork next ih => exact ⟨within.1, ih false within.2⟩

theorem bind {program : Method α} {rest : α → Method β}
    (plainly : program.Within (I := daemon) Plainly Steady)
    (later : ∀ value, WritesOnce (rest value)) : WritesOnce (program >>= rest) := by
  induction program with
  | pure value => exact later value
  | fail fault => trivial
  | exit => trivial
  | op op next ih =>
      have rest (reply : op.Reply) := ih reply (plainly.2 reply)
      cases op with
      | exec sql => exact .inl ⟨plainly.1, rest⟩
      | _ => exact rest
  | fork next ih => exact ⟨plainly.1.bind _, ih false plainly.2⟩

theorem steady {program : Method α} {rest : α → Method β}
    (steady : program.Within (I := daemon) Steady Steady)
    (later : ∀ value, WritesOnce (rest value)) : WritesOnce (program >>= rest) :=
  bind (steady.mono fun op steady => by
    cases op with
    | exec sql => exact steady.elim
    | _ => trivial) later

theorem check {condition : Prop} [Decidable condition] {fault : Fault} {other : α → Method β}
    {rest : Method β} (later : WritesOnce rest) :
    WritesOnce (if condition then Program.fail fault >>= other else rest) := by
  split
  · trivial
  · exact later

theorem ofExcept {known : Except Fault α} {rest : α → Method β}
    (later : ∀ value, WritesOnce (rest value)) : WritesOnce (Vcd.ofExcept known >>= rest) := by
  cases known with
  | error fault => trivial
  | ok value => exact later value

theorem lookup {program : Method α} (lookup : Lookup program) {rest : α → Method β}
    (later : ∀ value, WritesOnce (rest value)) : WritesOnce (program >>= rest) :=
  steady lookup.steady later

theorem sys {call : Sys} {rest : Answer → Method β} (later : ∀ answer, WritesOnce (rest answer)) :
    WritesOnce (Vcd.sys call >>= rest) :=
  later

theorem exec {sql : List Piece} {rest : Sql.Outcome → Method β}
    (later : ∀ outcome, (rest outcome).Within (I := daemon) Steady Steady) :
    WritesOnce (vxdbExec sql >>= rest) :=
  .inr later

/-- The end of a method that fails if its statement did. -/
theorem exec_last (sql : List Piece) (function : Str) : WritesOnce (do
    let outcome ← vxdbExec sql
    if !outcome.ok then vxdbFault function
    return Xml.nil) := by
  refine exec fun outcome => ?_
  rcases outcome with ⟨_ | _, _⟩
  · trivial
  · trivial

theorem andThen {program : Method α} {rest : α → Method β} (once : WritesOnce program)
    (later : ∀ value, (rest value).Within (I := daemon) Steady Steady) :
    WritesOnce (program >>= rest) := by
  induction program with
  | pure value => exact of_steady (later value)
  | fail fault => trivial
  | exit => trivial
  | op op next ih =>
      cases op with
      | exec sql =>
          rcases once with ⟨plain, once⟩ | steady
          · exact .inl ⟨plain, fun outcome => ih outcome (once outcome)⟩
          · exact .inr fun outcome => (steady outcome).bind later
      | _ => exact fun reply => ih reply (once reply)
  | fork next ih => exact ⟨once.1.bind _, ih false once.2⟩

theorem attempt {program : Method α} (once : WritesOnce program) : WritesOnce program.attempt := by
  induction program with
  | pure value => trivial
  | fail fault => trivial
  | exit => trivial
  | op op next ih =>
      cases op with
      | exec sql =>
          rcases once with ⟨plain, once⟩ | steady
          · exact .inl ⟨plain, fun outcome => ih outcome (once outcome)⟩
          · exact .inr fun outcome => (steady outcome).attempt
      | _ => exact fun reply => ih reply (once reply)
  | fork next ih => exact ⟨once.1.bind _, ih false once.2⟩

theorem inside {body : Body} {name : Str} {program : Method α} (once : WritesOnce program) :
    WritesOnce (Vcd.inside body name program) := by
  have left (outcome : Except Fault α) :
      (Program.perform (I := daemon) (.mark .leave) >>= fun _ => Vcd.ofExcept outcome).Within
        Steady Steady := by
    refine ⟨trivial, fun _ => ?_⟩
    cases outcome with
    | ok value => trivial
    | error fault => trivial
  intro _
  change WritesOnce (program.attempt >>= _)
  exact andThen once.attempt left

end WritesOnce

/-! ## Runs -/

section Runs

variable {self : Nat} {session : Session}

theorem performs_steady {op : Op} (steady : Steady op) (session : Session) :
    (session.performs self op).2.connection = session.connection := by
  cases op with
  | exec sql => exact steady.elim
  | _ => rfl

/-- The connection stays the same, and every operation is steady. -/
def RunsSteadily (self : Nat) (program : Method α) (session : Session) : Prop :=
  (program.run sessionMachine self session).state.connection = session.connection ∧
    ∀ step ∈ (program.run sessionMachine self session).trace, Steady step.2

theorem steady_of_promised {step : Session × Op} {matching : Past → Session → Prop}
    (promised : @Program.Promised daemon sessionMachine (.ofHistory (fun _ => Steady) Steady)
      matching step) : Steady step.2 := by
  obtain ⟨_, -, steady | steady⟩ := promised
  · exact steady
  · exact steady

theorem run_steady {program : Method α} (within : program.Within (I := daemon) Steady Steady)
    (session : Session) : RunsSteadily self program session := by
  have kept (past : Past) (state : Session) (op : Op)
      (same : state.connection = session.connection) (steady : Steady op) :
      (state.performs self op).2.connection = session.connection :=
    (performs_steady steady state).trans same
  have meets := within.meets (fun (_ : Past) _ => id) []
  obtain ⟨⟨_, same, -⟩, promised⟩ :=
    @Program.run_meets daemon Fault α sessionMachine self _
      (fun _ state => state.connection = session.connection) kept kept _ _ _ meets session rfl
  exact ⟨same, fun step mem => steady_of_promised (promised step mem)⟩

theorem run_orphan_steady {program : Method α} (orphan : program.Orphan (I := daemon) Steady)
    (session : Session) : RunsSteadily self program session := by
  have kept (past : Past) (state : Session) (op : Op)
      (same : state.connection = session.connection) (steady : Steady op) :
      (state.performs self op).2.connection = session.connection :=
    (performs_steady steady state).trans same
  obtain ⟨same, promised⟩ :=
    @Program.run_orphan daemon Fault α sessionMachine self (.ofHistory (fun _ => Steady) Steady)
      (fun _ state => state.connection = session.connection) kept program orphan [] session rfl
  exact ⟨same, fun step mem => steady_of_promised (promised step mem)⟩

theorem PlainText.not_batch {sql : Str} (plain : PlainText sql) :
    ¬ isBatch (commands vxdbSchema sql) = true := by
  intro batch
  obtain ⟨body, -, equal⟩ := isBatch_iff.mp batch
  unfold PlainText at plain
  rw [equal] at plain
  cases plain

/-- If the step executes a text with a transaction, the connection is as that left it at the
end. -/
def LeftBy (last : Session) (step : Session × Op) : Prop :=
  ∀ sql, step.2 = .exec sql → isBatch (commands vxdbSchema sql) = true →
    last.connection = (step.1.executes sql).1

theorem leftBy_of_steady {last : Session} {step : Session × Op} (steady : Steady step.2) :
    LeftBy last step := by
  intro sql equal
  rw [equal] at steady
  exact steady.elim

/-- After a text with a transaction the connection stays as that left it. -/
theorem run_writesOnce {program : Method α} (once : WritesOnce program) :
    ∀ step ∈ (program.run sessionMachine self session).trace,
      LeftBy (program.run sessionMachine self session).state step := by
  induction program generalizing session with
  | pure value => exact fun step mem => by cases mem
  | fail fault => exact fun step mem => by cases mem
  | exit => exact fun step mem => by cases mem
  | op op next ih =>
      intro step mem
      rcases List.mem_cons.mp mem with rfl | mem
      · intro sql equal batch
        dsimp only at equal
        subst equal
        rcases once with ⟨plain, -⟩ | steady
        · exact absurd batch plain.not_batch
        · exact (run_steady (steady _) _).1
      · cases op with
        | exec sql =>
            rcases once with ⟨plain, once⟩ | steady
            · exact ih _ (once _) step mem
            · exact leftBy_of_steady ((run_steady (steady _) _).2 step mem)
        | _ => exact ih _ (once _) step mem
  | fork next ih =>
      intro step mem
      have child := @run_orphan_steady _ self _ once.1 session
      rcases List.mem_append.mp mem with mem | mem
      · exact leftBy_of_steady (child.2 step mem)
      · exact ih false once.2 step mem

end Runs

/-! ## The methods -/

section Methods

variable (host : Host) (credentials params : Xml)

theorem writesOnce_mVcdUserRemove :
    WritesOnce (mVcdUserRemove host (.client credentials params)) := by
  refine .bind (plainly_of_counting (counting_methodInit host credentials params _ _))
    fun params => ?_
  refine .ofExcept fun user => .lookup (lookup_authGetuid user) fun uid => ?_
  exact .check (.exec_last _ _)

theorem writesOnce_mVgRemove : WritesOnce (mVgRemove host (.client credentials params)) := by
  refine .bind (plainly_of_counting (counting_methodInit host credentials params _ _))
    fun params => ?_
  refine .ofExcept fun group => .ofExcept fun name => .check <| .check ?_
  refine .lookup (lookup_vxdbGetgid group) fun gid => .check ?_
  split
  · exact .exec_last _ _
  · exact .bind (plainly_of_counting (counting_validateMember name)) fun xid => .exec_last _ _

theorem writesOnce_mVxRemove : WritesOnce (mVxRemove host (.client credentials params)) := by
  refine .bind (plainly_of_counting (counting_methodInit host credentials params _ _))
    fun params => ?_
  refine .ofExcept fun name => .inside ?_
  refine .lookup (lookup_vxdbGetxid name) fun xid => .check <| .sys fun info => .check ?_
  refine .lookup (lookup_vxdbGetvdir host name) fun vdir => .exec fun outcome => ?_
  refine steady_ite trivial ?_
  refine (steady_sysOrFault _ _ _).bind fun _ => steady_sys fun isdir => ?_
  refine steady_ite (steady_sys fun ismount => steady_ite trivial trivial) trivial

theorem steady_createTarget (user name : Str) (force : Bool) :
    (createTarget user name force).Within (I := daemon) Steady Steady := by
  refine (lookup_vxdbGetxid name).steady.bind fun xid => ?_
  refine steady_ite ?_ ?_
  · refine (lookup_authIsowner user name).steady.bind fun owner => ?_
    refine steady_ite (steady_ite trivial ?_) trivial
    exact steady_sys fun info => steady_ite trivial trivial
  · exact (lookup_authIsadmin user).steady.bind fun admin => steady_ite trivial trivial

theorem steady_scanFreeXid (xid : Int) (remaining : Nat) :
    (scanFreeXid xid remaining).Within (I := daemon) Steady Steady := by
  induction remaining generalizing xid with
  | zero => trivial
  | succ remaining ih =>
      refine (lookup_vxdbGetname xid).steady.bind fun name => ?_
      cases name with
      | none => trivial
      | some name => exact ih (xid + 1)

theorem steady_findFreeXid (name : Str) (xid : Int) :
    (findFreeXid name xid).Within (I := daemon) Steady Steady := by
  refine steady_ite trivial ⟨trivial, fun rows => ?_⟩
  rcases rows with _ | _ | ⟨row, rows⟩
  · trivial
  · trivial
  · have chosen : (chooseXid row).Within (I := daemon) Steady Steady := by
      refine steady_ite trivial <| steady_ite trivial <| steady_ite ?_ trivial
      exact (steady_scanFreeXid _ _).bind fun _ => trivial
    refine chosen.bind fun (xid, finalized) => ?_
    exact steady_ite trivial (steady_ite trivial trivial)

/-- `build_root_filesystem` once the old directory is gone. -/
def fillRootFilesystem (name vdir tdir : Str) (xid : Int) (copy : Bool) : Method Int := do
  let _ ← sys (.runlink vdir)
  let xid ← findFreeXid name xid
  sysOrFault (cstr "build_root_filesystem") (cstr "mkdirp") (.mkdirp vdir)
  match ← (makeVserverFilesystem vdir tdir copy).attempt with
  | .error fault =>
      let _ ← sys (.runlink vdir)
      .fail fault
  | .ok () =>
      sanitizeDev vdir
      return xid

theorem steady_buildRootFilesystem (name vdir tdir : Str) (xid : Int) (copy : Bool) :
    (buildRootFilesystem host name vdir tdir xid copy).Within (I := daemon) Steady Steady := by
  have fill : (fillRootFilesystem name vdir tdir xid copy).Within Steady Steady := by
    refine steady_sys fun _ => (steady_findFreeXid name xid).bind fun xid => ?_
    refine (steady_sysOrFault _ _ _).bind fun _ => ?_
    refine (silent_makeVserverFilesystem vdir tdir copy).steady.attempt.bind fun filled => ?_
    cases filled with
    | error fault => exact steady_sys fun _ => trivial
    | ok value =>
        refine Program.Within.bind ?_ fun _ => trivial
        exact (steady_sysOrFault _ _ _).bind fun _ => steady_sysAll _ trivial
  refine steady_ite ?_ fill
  refine (lookup_vxdbGetvdir host name).steady.bind fun oldvdir => ?_
  exact steady_ite trivial (steady_sys fun _ => fill)

/-- `create_vxdb_entries` once the configuration of the template is read. -/
def recordConf (host : Host) (template vdir name : Str) (xid : Int) : ConfResult → Method Unit
  | .fileError => faultf .conf
      [.chars (cstr "could not read template configuration: "), .str template]
  | .parseError => faultf .conf
      [.chars (cstr "syntax error in template configuration: "), .str template]
  | .parsed conf => do
      let entries ← ofExcept (templateEntries conf vdir name)
      let outcome ← vxdbExecFormat host (render (sqlCreate xid entries))
      if !outcome.ok then
        let _ ← sys (.runlink vdir)
        vxdbFault (cstr "create_vxdb_entries")

theorem writesOnce_createVxdbEntries (templates : Templates) (tdir template vdir name : Str)
    (xid : Int) :
    WritesOnce (createVxdbEntries host templates tdir template vdir name xid) := by
  have records (result : ConfResult) :
      WritesOnce (recordConf host template vdir name xid result) := by
    cases result with
    | fileError => trivial
    | parseError => trivial
    | parsed conf =>
        refine .ofExcept fun entries => .inr fun outcome => ?_
        exact steady_ite (steady_sys fun _ => trivial) trivial
  exact .sys fun exists? => records _

theorem writesOnce_mVxCreate (templates : Templates) :
    WritesOnce (mVxCreate host templates (.client credentials params)) := by
  refine .bind (plainly_of_counting (counting_methodInit host credentials params _ _))
    fun _ => ?_
  refine .ofExcept fun user => .ofExcept fun name => .ofExcept fun template => ?_
  refine .ofExcept fun force => .ofExcept fun copy => .ofExcept fun vdir => ?_
  refine .check <| .check <| .sys fun basedir => .check <| .sys fun tdir => .check ?_
  refine .steady (steady_createTarget user name force) fun xid => ?_
  refine .lookup (lookup_createVdir host) fun vdir => .check <| .check ?_
  have builds : WritesOnce (do
      let xid ← buildRootFilesystem host name vdir
        (strPathConcat host.templatedir template) xid copy
      createVxdbEntries host templates (strPathConcat host.templatedir template) template vdir
        name xid
      return Xml.nil) := by
    refine .steady (steady_buildRootFilesystem host name vdir _ xid copy) fun xid => ?_
    exact .andThen (writesOnce_createVxdbEntries host templates _ template vdir name xid)
      fun _ => trivial
  split
  · exact .sys fun path => .check builds
  · exact builds

end Methods

/-! ## Failing transactions -/

/-- The step executes a transaction, and that fails. -/
def FailedBatch : Session × Op → Prop
  | (session, .exec sql) =>
      isBatch (commands vxdbSchema sql) = true ∧ (session.executes sql).2.isSome = true
  | _ => False

instance : DecidablePred FailedBatch
  | (_, .exec _) => inferInstanceAs (Decidable (_ ∧ _))
  | (_, .prepare _) | (_, .sys _) | (_, .testLock _) | (_, .lock _) | (_, .mark _) => .isFalse id

/-- The connection is outside any transaction, and the tables it shows are those before the
step. -/
def Undone (step : Session × Op) (last : Session) : Prop :=
  last.connection.saved = none ∧
    ∀ table, last.connection.db.rows table = step.1.connection.db.rows table

/-- The connection is outside any transaction, and the statement that starts one fails for a
reason of its own. -/
def NeverBegun (step : Session × Op) : Prop :=
  step.1.connection.saved = none ∧ (step.1.faulty step.1.executed 0).isSome = true

/-- The library rolls back itself, on a connection that shows nothing but committed tables. -/
def RolledBack : Session × Op → Prop
  | (session, .exec sql) =>
      (session.executes sql).2 = some .transaction ∧ ∀ table,
        session.connection.committed.rows table = session.connection.db.rows table
  | _ => False

/-- The methods that execute transactions. -/
def transactionMethods : List Str :=
  [cstr "vx.create", cstr "vx.remove", cstr "vcd.user.remove", cstr "vg.remove"]

theorem writesOnce_handle (setup : Setup) (request : Request)
    (listed : request.method ∈ transactionMethods) : WritesOnce (handle setup request) := by
  simp only [transactionMethods, List.mem_cons, List.not_mem_nil, or_false] at listed
  rcases listed with method | method | method | method
  · have handler : handle setup request = mVxCreate setup.host setup.templates
        (.client request.credentials request.params) := by
      rw [handle, method]
      rfl
    exact handler ▸ writesOnce_mVxCreate _ _ _ _
  · have handler : handle setup request =
        mVxRemove setup.host (.client request.credentials request.params) := by
      rw [handle, method]
      rfl
    exact handler ▸ writesOnce_mVxRemove _ _ _
  · have handler : handle setup request =
        mVcdUserRemove setup.host (.client request.credentials request.params) := by
      rw [handle, method]
      rfl
    exact handler ▸ writesOnce_mVcdUserRemove _ _ _
  · have handler : handle setup request =
        mVgRemove setup.host (.client request.credentials request.params) := by
      rw [handle, method]
      rfl
    exact handler ▸ writesOnce_mVgRemove _ _ _

/-- A connection on which no statement fails for a reason of its own. -/
def Session.calm (db : Vxdb) (kernel : Sys → Answer) : Session where
  connection := { db }
  holder := fun _ => none
  kernel := fun _ => kernel
  clock := 0
  faulty := fun _ _ => none
  executed := 0

/-- On such a connection a text does to the tables what it does in a process of its own. -/
theorem Session.performs_calm (self : Nat) (db : Vxdb) (kernel : Sys → Answer) (sql : Str) :
    execText db sql = (((Session.calm db kernel).performs self (.exec sql)).2.connection.committed,
      ((Session.calm db kernel).performs self (.exec sql)).1) := by
  have calm : (Session.calm db kernel).executes sql = _ := Connection.execFaulty_none _
  simp only [performs, calm, execText]
  cases ran : (({ db } : Connection vxdbSchema).exec (commands vxdbSchema sql)).2 with
  | true => simp [Session.calm, ran]
  | false => simp [Session.calm, ran]

/-- A second virtual server in the directory of the first. -/
def twinRequest : Request :=
  adminRequest (cstr "vx.create") (cstr "mail")
    [(cstr "template", .str (cstr "debian")), (cstr "force", .bool true),
      (cstr "copy", .bool false), (cstr "vdir", .str (cstr "/vservers/web"))]

end Vcd
