import Vcd.Endings
import Vcd.Process.Forks

/-!
# Forked children

Which children the methods fork, and in what state.
-/

namespace Vcd

open Sql Process

variable {α β : Type} {self : Nat} {world last : World} {child : Method Empty}

/-! ## Programs that do not fork -/

abbrev NoFork (program : Method α) : Prop :=
  Program.NoFork program

/-- The run of the program alone forks the child in a certain world. -/
abbrev ForksAt (self : Nat) (program : Method α) (world : World) (child : Method Empty)
    (last : World) : Prop :=
  Program.ForksAt machine self program world child last

theorem Lookup.noFork {program : Method α} (lookup : Lookup program) : NoFork program := by
  induction program with
  | pure value => trivial
  | fail fault => exact lookup.elim
  | exit => exact lookup.elim
  | op request next ih =>
      cases request with
      | prepare sql => exact fun reply => ih reply (lookup reply)
      | _ => exact lookup.elim
  | fork next ih => exact lookup.elim

theorem noFork_ofExcept (known : Except Fault α) : NoFork (ofExcept known) := by
  cases known <;> trivial

theorem noFork_check {condition : Prop} [Decidable condition] {fault : Fault}
    {other : α → Method β} {rest : Method β} (later : NoFork rest) :
    NoFork (if condition then Program.fail fault >>= other else rest) := by
  split
  · trivial
  · exact later

theorem noFork_sys {call : Sys} {rest : Answer → Method β}
    (later : ∀ answer, NoFork (rest answer)) : NoFork (sys call >>= rest) :=
  later

theorem noFork_sysOrFault (function message : Str) (call : Sys) :
    NoFork (sysOrFault function message call) := by
  intro answer
  change NoFork (if _ then _ else _ : Method Unit)
  split <;> trivial

theorem noFork_requireRunning (function : Str) (xid : Int) :
    NoFork (requireRunning function xid) := by
  intro info
  change NoFork (if _ then _ else _ : Method Unit)
  split
  · split <;> trivial
  · trivial

theorem noFork_methodLock (name : Str) : NoFork (methodLock name) := by
  intro free
  cases free with
  | false => trivial
  | true => exact fun _ => trivial

theorem noFork_methodCheckFlags (params : Xml) (user : Option Str) (flags : Flags) :
    NoFork (methodCheckFlags params user flags) := by
  refine (noFork_ofExcept _).bind fun name => ?_
  cases validateName name with
  | false => trivial
  | true =>
      cases user with
      | none => trivial
      | some user =>
          have locking : NoFork (if flags.lock = true then methodLock name else pure ()) := by
            split
            · exact noFork_methodLock name
            · trivial
          simp only [Bool.not_true, Bool.false_eq_true, if_false]
          split
          · refine (lookup_authIsowner user name).noFork.bind fun owner => ?_
            cases owner with
            | false => trivial
            | true => exact locking
          · exact locking

theorem noFork_methodAuthenticate (host : Host) (credentials : Xml) (caps : UInt64) :
    NoFork (methodAuthenticate host credentials caps) := by
  intro outcome
  refine (noFork_ofExcept _).bind fun user => ?_
  refine (noFork_ofExcept _).bind fun pass => ?_
  refine (lookup_authIsvalid host user pass).noFork.bind fun valid => ?_
  cases valid with
  | false => exact fun _ => trivial
  | true =>
      refine (lookup_authCapable user caps).noFork.bind fun capable => ?_
      cases capable <;> trivial

theorem noFork_methodInit (host : Host) (call : Call) (caps : UInt64) (flags : Flags) :
    NoFork (methodInit host call caps flags) := by
  cases call with
  | client credentials params =>
      refine (noFork_methodAuthenticate host credentials caps).bind fun user => ?_
      split
      · exact (noFork_methodCheckFlags params (some user) flags).bind fun _ => trivial
      · trivial
  | internal params =>
      change NoFork (if _ then _ else _ : Method Xml)
      split
      · exact (noFork_methodCheckFlags params none flags).bind fun _ => trivial
      · trivial

theorem SilentMethod.contained {host : Host} {method : Call → Method Xml}
    (silent : SilentMethod host method) (call : Call) : Program.Contained (method call) := by
  obtain ⟨caps, flags, rest, equal, silent⟩ := silent
  rw [equal]
  exact (noFork_methodInit host call caps flags).contained.bind fun params =>
    (silent params).contained

/-! ## Where a child is forked -/

/-- A check before the fork was passed. -/
theorem forksAt_of_check {condition : Prop} [Decidable condition] {fault : Fault}
    {other : α → Method β} {rest : Method β}
    (forks : ForksAt self (if condition then Program.fail fault >>= other else rest) world
      child last) : ¬ condition ∧ ForksAt self rest world child last := by
  split at forks
  next =>
      have noFork : NoFork (.fail fault : Method α) := trivial
      obtain ⟨_, returned, -⟩ := forks.of_bind noFork
      cases returned
  next refused => exact ⟨refused, forks⟩

theorem forksAt_of_sys {call : Sys} {rest : Answer → Method β}
    (forks : ForksAt self (sys call >>= rest) world child last) :
    ∃ answer, ForksAt self (rest answer) { world with clock := world.clock + 1 } child last := by
  have noFork : NoFork (sys call) := fun _ => trivial
  obtain ⟨answer, -, later⟩ := forks.of_bind noFork
  exact ⟨answer, later⟩

theorem forksAt_of_call {function message : Str} {call : Sys} {rest : Unit → Method β}
    (forks : ForksAt self (sysOrFault function message call >>= rest) world child last) :
    ForksAt self (rest ()) { world with clock := world.clock + 1 } child last := by
  obtain ⟨⟨⟩, -, later⟩ := forks.of_bind (noFork_sysOrFault function message call)
  have same : ((sysOrFault function message call).run machine self world).state =
      { world with clock := world.clock + 1 } := by
    unfold sysOrFault
    change ((if _ then _ else _ : Method Unit).run machine self _).state = _
    split <;> rfl
  rwa [← same]

/-- The child a function forks, when nothing after the fork forks. -/
theorem forksAt_of_spawn {forked : Method Empty} {rest : Unit → Method β}
    (forks : ForksAt self (Program.spawn forked >>= rest) world child last)
    (noFork : NoFork (rest ())) : child = forked ∧ last = world := by
  rcases forks.of_spawn with here | ⟨after, later⟩
  · exact here
  · exact (noFork.not_forksAt later).elim

/-! ## The functions that fork -/

theorem forks_inside {body : Body} {name : Str} {program : Method α}
    (contained : Program.Contained program)
    (forks : ForksAt self (inside body name program) world child last) :
    ∃ entered, ForksAt self program entered child last := by
  have enters : NoFork (Program.perform (I := daemon) (.mark (.enter body name))) :=
    fun _ => trivial
  obtain ⟨-, -, body⟩ := forks.of_bind enters
  have leaves : ∀ outcome : Except Fault α,
      NoFork (Program.perform (I := daemon) (.mark .leave) >>= fun _ => ofExcept outcome) := by
    intro outcome _
    cases outcome <;> trivial
  have attempt := body.of_bind_left contained.attempt leaves
  exact ⟨_, attempt.of_attempt contained⟩

theorem forks_vxStartBody {name : Str} (forks : ForksAt self (vxStartBody name) world child last) :
    ∃ xid, child = vxStartChild xid := by
  obtain ⟨xid, -, forks⟩ := forks.of_bind (lookup_vxdbGetxid name).noFork
  obtain ⟨-, forks⟩ := forksAt_of_check forks
  obtain ⟨_, forks⟩ := forksAt_of_sys forks
  obtain ⟨_, forks⟩ := forksAt_of_sys forks
  obtain ⟨_, forks⟩ := forksAt_of_sys forks
  obtain ⟨-, forks⟩ := forksAt_of_check forks
  refine ⟨xid, (forksAt_of_spawn (forksAt_of_call (forksAt_of_call forks)) ?_).1⟩
  refine noFork_sys fun output => noFork_sys fun status => ?_
  exact noFork_check (noFork_check (noFork_check trivial))

theorem forks_mVxStart {host : Host} {call : Call}
    (forks : ForksAt self (mVxStart host call) world child last) :
    ∃ xid, child = vxStartChild xid := by
  obtain ⟨params, -, forks⟩ := forks.of_bind (noFork_methodInit host call _ _)
  obtain ⟨name, -, forks⟩ := forks.of_bind (noFork_ofExcept _)
  obtain ⟨entered, forks⟩ := forks_inside (silent_vxStartBody name).contained forks
  exact forks_vxStartBody forks

theorem forks_mVxExec {host : Host} {call : Call}
    (forks : ForksAt self (mVxExec host call) world child last) :
    ∃ xid command, child = vxExecChild xid command := by
  obtain ⟨params, -, forks⟩ := forks.of_bind (noFork_methodInit host call _ _)
  obtain ⟨name, -, forks⟩ := forks.of_bind (noFork_ofExcept _)
  obtain ⟨command, -, forks⟩ := forks.of_bind (noFork_ofExcept _)
  obtain ⟨xid, -, forks⟩ := forks.of_bind (lookup_vxdbGetxid name).noFork
  obtain ⟨-, forks⟩ := forksAt_of_check forks
  obtain ⟨-, -, forks⟩ := forks.of_bind (noFork_requireRunning _ xid)
  obtain ⟨vdir, -, forks⟩ := forks.of_bind (lookup_vxdbGetvdir host name).noFork
  have forks := forksAt_of_call (forksAt_of_call (forksAt_of_call (forksAt_of_call forks)))
  refine ⟨xid, command, (forksAt_of_spawn (forksAt_of_call (forksAt_of_call forks)) ?_).1⟩
  refine noFork_sys fun output => noFork_check (noFork_sys fun status => ?_)
  exact noFork_check (noFork_check trivial)

theorem forks_namespaceSetup {xid : Int}
    (forks : ForksAt self (namespaceSetup xid) world child last) :
    child = namespaceChild xid := by
  refine (forksAt_of_spawn (forksAt_of_call forks) ?_).1
  refine noFork_sys fun status => noFork_check ?_
  change NoFork (if _ then _ else _ : Method Unit)
  split <;> trivial

theorem forks_doMount {xid : Int} {vdir : Str} {mtab : Bool} {row : Row}
    (forks : ForksAt self (doMount xid vdir mtab row) world child last) :
    ∃ dst command, child = mountChild xid vdir dst command := by
  refine ⟨_, _, (forksAt_of_spawn (forksAt_of_call forks) ?_).1⟩
  refine noFork_sys fun status => noFork_check (noFork_check (noFork_check ?_))
  split
  · exact noFork_sys fun _ => trivial
  · trivial

/-! ## The child of helper.shutdown -/

def Call.params : Call → Xml
  | .client _ params => params
  | .internal params => params

/-- The checks of a call come first, and then its parameters are used. -/
theorem methodInit_call (host : Host) (call : Call) (caps : UInt64) (flags : Flags) :
    ∃ entry : Method Unit, NoFork entry ∧ entry.Within (I := daemon) Access Access ∧
      ∀ {β : Type} (rest : Xml → Method β),
        (methodInit host call caps flags >>= rest) = entry >>= fun _ => rest call.params := by
  cases call with
  | client credentials params =>
      refine ⟨methodAuthenticate host credentials caps >>= fun user =>
        if flags.any then methodCheckFlags params (some user) flags else pure (), ?_, ?_, ?_⟩
      · refine (noFork_methodAuthenticate host credentials caps).bind fun user => ?_
        split
        · exact noFork_methodCheckFlags params (some user) flags
        · trivial
      · refine (access_methodAuthenticate host credentials caps).bind fun user => ?_
        split
        · exact access_methodCheckFlags params (some user) flags
        · trivial
      · intro β rest
        unfold methodInit
        simp only [bind_assoc]
        congr 1
        funext user
        split
        · simp only [bind_assoc, pure_bind]
          rfl
        · rfl
  | internal params =>
      refine ⟨if flags.any then methodCheckFlags params none flags else pure (), ?_, ?_, ?_⟩
      · split
        · exact noFork_methodCheckFlags params none flags
        · trivial
      · split
        · exact access_methodCheckFlags params none flags
        · trivial
      · intro β rest
        unfold methodInit
        cases flags.any with
        | false => rfl
        | true => exact bind_assoc _ _ _

theorem SameRows.refl (db : Vxdb) : SameRows db db :=
  fun _ _ => rfl

/-- A program that only counts leaves all other tables as they are. -/
theorem sameRows_run (self : Nat) {program : Method α} {quiet : Op → Prop}
    (noFork : NoFork program)
    (counting : program.Within (I := daemon) Counting quiet) (world : World) :
    SameRows world.db (program.run machine self world).state.db := by
  induction program generalizing world with
  | pure value => exact .refl world.db
  | fail fault => exact .refl world.db
  | exit => exact .refl world.db
  | op request next ih =>
      have later := ih _ (noFork (world.performs self request).1)
        (counting.2 (world.performs self request).1) (world.performs self request).2
      refine SameRows.trans ?_ later
      cases request with
      | exec sql => exact sameRows_counts (counts_of_mem counting.1) world.db
      | _ => exact .refl world.db
  | fork next ih => exact noFork.elim

/-- How long the child waits for the contexts of a server, in seconds: the timeout in the table
`init`, and 15 where none is configured or it is below 1. -/
def awaitedSeconds (db : Vxdb) (xid : Int) : Nat :=
  let timeout := match (db.rows Table.init).filter (ofXid (int32 xid)) with
    | row :: _ => vxdbColumnInt [Table.init.cell row (cstr "timeout")] 0
    | [] => 15
  (if timeout < 1 then 15 else timeout).toNat

theorem prepareText_sqlTimeout (xid : Int) (db : Vxdb) :
    prepareText db (render (sqlTimeout xid)) =
      some (((db.rows Table.init).filter (ofXid (int32 xid))).map fun row =>
        [Table.init.cell row (cstr "timeout")]) := by
  rw [@prepareText_plain vxdbSchema (sqlTimeout xid) {
      projections := [.column none (cstr "timeout")]
      table := cstr "init", join := none
      condition := some (.eq (.column none (cstr "xid")) (.int (int32 xid)))
      order := none, limit := none } Table.init
    (by simp [sqlTimeout, xidPiece, Piece.Free]) (by rfl)
    ⟨by rfl, by rfl, by rfl, by rfl, by rfl, by rfl⟩]
  rfl

theorem commands_sqlRestartDelete (xid : Int) :
    commands vxdbSchema (render (sqlRestartDelete xid)) =
      [some (.change (.delete Table.restart fun _ => ofXid (int32 xid)))] :=
  commands_of_read (by simp [sqlRestartDelete, xidPiece, Piece.Closed]) (by rfl)

theorem noFork_removeCpuset (xid : Int) : NoFork (removeCpuset xid) := by
  refine noFork_sys fun found => ?_
  split
  · exact noFork_sys fun _ => trivial
  · trivial

/-- A program that only calls the kernel leaves the database as it is. -/
theorem db_run_removeCpuset (xid : Int) (world : World) :
    ((removeCpuset xid).run machine self world).state.db = world.db := by
  unfold removeCpuset
  change ((if _ then _ else _ : Method Unit).run machine self _).state.db = _
  split <;> rfl

/-- The target of a helper is looked up without changing anything but counters. -/
theorem noFork_helperTarget (host : Host) (call : Call) : NoFork (helperTarget host call) := by
  refine (noFork_methodInit host call capHelper {}).bind fun params => ?_
  refine (noFork_ofExcept _).bind fun number => ?_
  refine (lookup_vxdbGetname _).noFork.bind fun known => ?_
  cases known <;> trivial

theorem access_helperTarget (host : Host) (call : Call) :
    (helperTarget host call).Within (I := daemon) Access Access := by
  refine (access_methodInit host call capHelper {}).bind fun params => ?_
  refine (within_ofExcept _).bind fun number => ?_
  refine (lookup_vxdbGetname _).access.bind fun known => ?_
  cases known <;> trivial

theorem counting_helperTarget (host : Host) (call : Call) :
    (helperTarget host call).Within (I := daemon) Counting Access :=
  (access_helperTarget host call).mono fun _ => Access.counting

theorem returned_helperTarget {host : Host} {call : Call} {target : Int × Str}
    (returned : ((helperTarget host call).run machine self world).outcome = .returned target) :
    ∃ number, call.params.getInt (cstr "xid") = .ok number ∧ target.1 = uint32 number ∧
      nameIn ((helperTarget host call).run machine self world).state.db.oracle target.1 =
        some target.2 := by
  obtain ⟨entry, noFork, -, admits⟩ := methodInit_call host call capHelper {}
  unfold helperTarget at returned ⊢
  rw [admits] at returned ⊢
  obtain ⟨_, first, later⟩ := noFork.contained.returned_bind returned
  rw [@Program.Contained.run_bind daemon Fault Unit _ machine self entry noFork.contained _ world]
  unfold Program.Completed.andThen
  rw [first]
  dsimp only
  generalize (entry.run machine self world).state = start at later ⊢
  cases known : call.params.getInt (cstr "xid") with
  | error fault =>
      rw [known] at later
      cases later
  | ok number =>
      rw [known] at later
      have ran (rest : Option Str → Method (Int × Str)) :
          ((vxdbGetname (uint32 number) >>= rest).run machine self start).outcome =
              ((rest (nameIn start.db.oracle (uint32 number))).run machine self start).outcome ∧
            ((vxdbGetname (uint32 number) >>= rest).run machine self start).state =
              ((rest (nameIn start.db.oracle (uint32 number))).run machine self start).state := by
        obtain ⟨before, -, ran⟩ := (lookup_vxdbGetname (uint32 number)).run_bind start
          (answer_vxdbGetname _ (uint32 number)) self rest
        rw [ran]
        exact ⟨rfl, rfl⟩
      change ((vxdbGetname (uint32 number) >>= _).run machine self start).outcome = _ at later
      rw [(ran _).1] at later
      cases named : nameIn start.db.oracle (uint32 number) with
      | none =>
          rw [named] at later
          cases later
      | some name =>
          rw [named] at later
          cases later
          refine ⟨number, rfl, rfl, ?_⟩
          change nameIn ((vxdbGetname (uint32 number) >>= _).run machine self
            start).state.db.oracle _ = _
          rw [(ran _).2, named]
          exact named

/-- What `helper.shutdown` does once the cpuset is removed. -/
def shutdownTail (host : Host) (xid : Int) (name : Str) : Method Xml := do
  let function := cstr "m_helper_shutdown"
  let outcome ← vxdbExec (sqlRestartDelete xid)
  if !outcome.ok then vxdbFault function
  if outcome.changes < 1 then return .nil
  let timeout ← match ← vxdbPrepare (sqlTimeout xid) with
    | some (row :: _) => pure (vxdbColumnInt row 0)
    | _ => pure 15
  let timeout := if timeout < 1 then 15 else timeout
  sysOrFault function (cstr "fork") .fork
  Program.spawn (shutdownChild host xid name timeout.toNat)
  sysOrFault function (cstr "waitpid") .waitpid
  return .nil

theorem forks_timeout {host : Host} {xid : Int} {name : Str} {timeout : Int}
    (forks : ForksAt self (do
      sysOrFault (cstr "m_helper_shutdown") (cstr "fork") .fork
      Program.spawn (shutdownChild host xid name timeout.toNat)
      sysOrFault (cstr "m_helper_shutdown") (cstr "waitpid") .waitpid
      return Xml.nil) world child last) :
    child = shutdownChild host xid name timeout.toNat ∧ last.db = world.db := by
  obtain ⟨same, rfl⟩ := forksAt_of_spawn (forksAt_of_call forks)
    ((noFork_sysOrFault _ _ _).bind fun _ => trivial)
  exact ⟨same, rfl⟩

theorem forks_shutdownTail {host : Host} {xid : Int} {name : Str}
    (forks : ForksAt self (shutdownTail host xid name) world child last) :
    child = shutdownChild host xid name (awaitedSeconds last.db xid) ∧
      (∃ row ∈ world.db.rows Table.restart, ofXid (int32 xid) row = true) ∧
      last.db = world.db.delete Table.restart (ofXid (int32 xid)) := by
  have exec : NoFork (vxdbExec (sqlRestartDelete xid)) := fun _ => trivial
  obtain ⟨outcome, returned, forks⟩ := forks.of_bind exec
  have answered : outcome = (execText world.db (render (sqlRestartDelete xid))).2 :=
    (Process.Outcome.returned.inj returned).symm
  have deleted : (execText world.db (render (sqlRestartDelete xid))).1 =
      world.db.delete Table.restart (ofXid (int32 xid)) :=
    (execText_single (commands_sqlRestartDelete xid)).1
  have counted : outcome.changes =
      ((world.db.rows Table.restart).filter (ofXid (int32 xid))).length := by
    rw [answered]
    exact changes_execText_single (commands_sqlRestartDelete xid)
      (rfl : Change.apply world.db _ = some _)
  obtain ⟨-, forks⟩ := forksAt_of_check forks
  have some : ¬ outcome.changes < 1 ∧ ForksAt self (do
        let timeout ← match ← vxdbPrepare (sqlTimeout xid) with
          | some (row :: _) => pure (vxdbColumnInt row 0)
          | _ => pure 15
        sysOrFault (cstr "m_helper_shutdown") (cstr "fork") .fork
        Program.spawn (shutdownChild host xid name (if timeout < 1 then 15 else timeout).toNat)
        sysOrFault (cstr "m_helper_shutdown") (cstr "waitpid") .waitpid
        return Xml.nil)
        { world with db := (execText world.db (render (sqlRestartDelete xid))).1 } child last := by
    split at forks
    next =>
        have nothing : NoFork (pure Xml.nil) := trivial
        exact (nothing.not_forksAt forks).elim
    next changed => exact ⟨changed, forks⟩
  obtain ⟨changed, forks⟩ := some
  rw [counted] at changed
  rw [deleted] at forks
  obtain ⟨row, mem⟩ := List.exists_mem_of_length_pos (Nat.le_of_not_lt changed)
  obtain ⟨listed, chosen⟩ := List.mem_filter.mp mem
  have query : NoFork (vxdbPrepare (sqlTimeout xid)) := fun _ => trivial
  obtain ⟨rows, returned, forks⟩ := forks.of_bind query
  have read : rows = prepareText (world.db.delete Table.restart (ofXid (int32 xid)))
      (render (sqlTimeout xid)) := (Process.Outcome.returned.inj returned).symm
  rw [prepareText_sqlTimeout] at read
  have ends : child = shutdownChild host xid name
      (awaitedSeconds (world.db.delete Table.restart (ofXid (int32 xid))) xid) ∧
        last.db = world.db.delete Table.restart (ofXid (int32 xid)) := by
    unfold awaitedSeconds
    cases known : ((world.db.delete Table.restart (ofXid (int32 xid))).rows Table.init).filter
        (ofXid (int32 xid)) with
    | nil =>
        rw [read, known] at forks
        exact forks_timeout forks
    | cons row rows =>
        rw [read, known] at forks
        exact forks_timeout forks
  obtain ⟨same, after⟩ := ends
  rw [after]
  exact ⟨same, ⟨row, listed, chosen⟩, rfl⟩

/-- `helper.shutdown` has deleted a recorded restart when it forks, and hands the child the
configured timeout. -/
theorem forks_mHelperShutdown {host : Host} {call : Call}
    (forks : ForksAt self (mHelperShutdown host call) world child last) :
    ∃ number name, call.params.getInt (cstr "xid") = .ok number ∧
      child = shutdownChild host (uint32 number) name (awaitedSeconds last.db (uint32 number)) ∧
      (∃ row ∈ world.db.rows Table.restart, ofXid (int32 (uint32 number)) row = true) ∧
      (∀ row ∈ last.db.rows Table.restart, ofXid (int32 (uint32 number)) row = false) ∧
      ∀ table, table ≠ Table.vcd → table ≠ Table.restart →
        last.db.rows table = world.db.rows table := by
  have same := sameRows_run self (noFork_helperTarget host call)
    (counting_helperTarget host call) world
  obtain ⟨⟨xid, name⟩, returned, forks⟩ := forks.of_bind (noFork_helperTarget host call)
  obtain ⟨number, known, target, -⟩ := returned_helperTarget returned
  change xid = _ at target
  subst target
  clear returned
  revert forks same
  generalize ((helperTarget host call).run machine self world).state = start
  intro same forks
  obtain ⟨mounted, forks⟩ := forksAt_of_sys forks
  have tail : ∃ before : World, before.db = start.db ∧
      ForksAt self (shutdownTail host (uint32 number) name) before child last := by
    split at forks
    next =>
        obtain ⟨⟨⟩, -, later⟩ := forks.of_bind (noFork_removeCpuset _)
        exact ⟨_, db_run_removeCpuset _ { start with clock := start.clock + 1 }, later⟩
    next => exact ⟨{ start with clock := start.clock + 1 }, rfl, forks⟩
  obtain ⟨before, unchanged, forks⟩ := tail
  obtain ⟨forked, recorded, deleted⟩ := forks_shutdownTail forks
  rw [unchanged] at deleted recorded
  rw [same Table.restart (by decide)] at recorded
  refine ⟨number, name, known, forked, recorded, fun row mem => ?_, fun table other ne => ?_⟩
  · rw [deleted, Database.rows_delete_same] at mem
    simpa using (List.mem_filter.mp mem).2
  · rw [deleted, Database.rows_delete_other _ ne]
    exact same table other

end Vcd
